import LayeredSchema.Proofs.Schema.Layering
import LayeredSchema.Proofs.Schema.Loading

/-!
# Slots of a set of fragments

A fragment that is put into the slot of a kind takes the place of the one that was there. After any
run of assignments a slot holds the last fragment for its kind. Neither the order in which kinds
came nor an earlier fragment leaves a trace in the set, or in what is composed of it.

* `FragmentSet.get?_setAll` finds the fragment of a slot after a run;
* `FragmentSet.get?_composeOver` finds the value of a key where further fragments follow the set.
-/

namespace LayeredSchema

namespace FragmentSet

/-! ## Runs of assignments -/

/-- Puts fragments into the slots of their kinds, one after the other. A set is a value, so it makes
no difference whether one set is filled in place or each call goes on with the set of the one before
it. -/
def setAll (fragments : FragmentSet) (assignments : List (Kind × Fragment)) : FragmentSet :=
  assignments.foldl (fun fragments assignment => fragments.set assignment.1 assignment.2) fragments

/-- The fragment that a kind is assigned last. -/
def lastAssigned? (assignments : List (Kind × Fragment)) (kind : Kind) : Option Fragment :=
  (assignments.filter fun assignment => assignment.1 = kind).getLast?.map Prod.snd

variable {assignments : List (Kind × Fragment)} {kind : Kind}

theorem lastAssigned?_eq_some_iff {fragment : Fragment} :
    lastAssigned? assignments kind = some fragment ↔
      IsLast (fun assignment => assignment.1 = kind) assignments (kind, fragment) := by
  rw [isLast_iff_getLast?_filter, lastAssigned?, Option.map_eq_some_iff]
  constructor
  · rintro ⟨⟨other, last⟩, hlast, rfl⟩
    -- what the filter lets through is for the kind itself
    have hmem := List.mem_of_getLast? hlast
    have hkind : other = kind := by simpa using (List.mem_filter.mp hmem).2
    rw [hlast, hkind]
  · intro h
    exact ⟨_, h, rfl⟩

/-- Nothing was assigned to a slot exactly if no assignment names it. -/
theorem lastAssigned?_eq_none_iff :
    lastAssigned? assignments kind = none ↔ kind ∉ assignments.map Prod.fst := by
  rw [lastAssigned?, Option.map_eq_none_iff, List.getLast?_eq_none_iff, List.filter_eq_nil_iff,
    List.mem_map]
  simp only [decide_eq_true_eq, not_exists, not_and]

/-- An assignment decides for its own kind and for no other one. -/
theorem lastAssigned?_concat (assignments : List (Kind × Fragment)) (assigned kind : Kind)
    (fragment : Fragment) :
    lastAssigned? (assignments ++ [(assigned, fragment)]) kind
      = if assigned = kind then some fragment else lastAssigned? assignments kind := by
  rw [lastAssigned?, List.filter_append, List.filter_singleton]
  by_cases hkind : assigned = kind
  · simp [hkind]
  · simp [hkind, lastAssigned?]

/-- An assignment touches its own slot only. -/
theorem get?_set (fragments : FragmentSet) (assigned kind : Kind) (fragment : Fragment) :
    (fragments.set assigned fragment).get? kind
      = if assigned = kind then some fragment else fragments.get? kind := by
  by_cases hkind : assigned = kind
  · rw [if_pos hkind, hkind, get?_set_self]
  · rw [if_neg hkind, get?_set_of_ne fragments fragment (Ne.symm hkind)]

/-- After a run a slot holds the last fragment for its kind, or what it held before the run. -/
theorem get?_setAll (fragments : FragmentSet) (assignments : List (Kind × Fragment))
    (kind : Kind) :
    (fragments.setAll assignments).get? kind
      = (lastAssigned? assignments kind).or (fragments.get? kind) := by
  induction assignments using List.reverseRecOn with
  | nil => rfl
  | append_singleton assignments assignment ih =>
    obtain ⟨assigned, fragment⟩ := assignment
    have hrun : fragments.setAll (assignments ++ [(assigned, fragment)])
        = (fragments.setAll assignments).set assigned fragment := List.foldl_concat ..
    rw [hrun, get?_set, lastAssigned?_concat, ih]
    by_cases hkind : assigned = kind
    · rw [if_pos hkind, if_pos hkind, Option.some_or]
    · rw [if_neg hkind, if_neg hkind]

/-- Slots that were empty hold what was assigned to them last. -/
theorem get?_setAll_empty (assignments : List (Kind × Fragment)) (kind : Kind) :
    (empty.setAll assignments).get? kind = lastAssigned? assignments kind := by
  have hempty : empty.get? kind = none := by cases kind <;> rfl
  rw [get?_setAll, hempty, Option.or_none]

/-! ## What is there and what is missing -/

/-- The missing kinds are those with an empty slot. -/
theorem mem_missing {fragments : FragmentSet} :
    kind ∈ fragments.missing ↔ fragments.get? kind = none := by
  rw [missing, List.mem_filter, Option.isNone_iff_eq_none]
  exact and_iff_right (Kind.mem_all kind)

/-- What is required is what the slot holds. -/
theorem require_eq_ok_iff {fragments : FragmentSet} {fragment : Fragment} :
    fragments.require kind = .ok fragment ↔ fragments.get? kind = some fragment := by
  rw [require]
  cases fragments.get? kind <;> simp

theorem require_eq_error_iff {fragments : FragmentSet} {error : SchemaError} :
    fragments.require kind = .error error ↔
      kind ∈ fragments.missing ∧ error = .fragmentNotFound kind.name none := by
  rw [mem_missing, require]
  cases fragments.get? kind <;> simp [eq_comm]

/-! ## Composing a set and more -/

/-- Composes a set over a base, and further fragments over the set. -/
def composeOver (fragments : FragmentSet) (base : Mapping) (extras : List Fragment) :
    Composition :=
  (extras.foldl Composer.add ((Composer.ofBase base).addSet fragments)).compose

/-- The fragments in the slots come in the order of the kinds, and the extras behind them. -/
theorem composeOver_eq (fragments : FragmentSet) (base : Mapping) (extras : List Fragment) :
    fragments.composeOver base extras
      = Composition.compose base (fragments.inOrder ++ extras) := by
  rw [composeOver, Composer.foldl_add]
  rfl

/-- The value of a key comes from the last further fragment that holds it, else from the highest
kind that does, else from the base. -/
theorem get?_composeOver (fragments : FragmentSet) (base : Mapping) (extras : List Fragment)
    (key : String) :
    (fragments.composeOver base extras).get? key
      = (extras.reverse.findSome? fun extra => extra.body.get? key).or
          (([.tableMapping, .metric, .cloud].findSome? fun kind =>
            (fragments.get? kind).bind fun fragment => fragment.body.get? key).or
              (base.get? key)) := by
  have hslots : (fragments.inOrder.reverse.findSome? fun fragment => fragment.body.get? key)
      = [.tableMapping, .metric, .cloud].findSome? fun kind =>
          (fragments.get? kind).bind fun fragment => fragment.body.get? key := by
    rw [inOrder, ← List.filterMap_reverse, ← List.head?_filterMap, List.filterMap_filterMap,
      List.head?_filterMap]
    rfl
  rw [composeOver_eq, Composition.get?, Composition.get?_schema_compose_eq_findSome?,
    List.reverse_append, List.findSome?_append, hslots, Option.or_assoc]

/-- Slots hold the last assignment. After any run of assignments to an empty set, the fragment of a
kind is the last one assigned to it. The fragments that are there and the kinds that are missing are
listed in merge order, and exactly the missing kinds fail when they are required. What is composed
of the set and further fragments is the same, with keys in their places and all writers, for every
run with the same last fragments. The value of a key comes from the last further fragment that holds
it, else from the highest kind that does, else from the base. -/
theorem slots_hold_last_assignment (assignments : List (Kind × Fragment)) :
    (∀ kind fragment, (empty.setAll assignments).get? kind = some fragment ↔
      IsLast (fun assignment => assignment.1 = kind) assignments (kind, fragment)) ∧
    (empty.setAll assignments).inOrder
      = [.cloud, .metric, .tableMapping].filterMap (lastAssigned? assignments) ∧
    (empty.setAll assignments).missing
      = [.cloud, .metric, .tableMapping].filter (· ∉ assignments.map Prod.fst) ∧
    (∀ kind fragment, (empty.setAll assignments).require kind = .ok fragment ↔
      lastAssigned? assignments kind = some fragment) ∧
    (∀ kind error, (empty.setAll assignments).require kind = .error error ↔
      kind ∈ (empty.setAll assignments).missing ∧ error = .fragmentNotFound kind.name none) ∧
    (∀ other, (∀ kind, lastAssigned? other kind = lastAssigned? assignments kind) →
      ∀ base extras, (empty.setAll other).composeOver base extras
        = (empty.setAll assignments).composeOver base extras) ∧
    (∀ base extras key, ((empty.setAll assignments).composeOver base extras).get? key
      = (extras.reverse.findSome? fun extra => extra.body.get? key).or
          (([.tableMapping, .metric, .cloud].findSome? fun kind =>
            (lastAssigned? assignments kind).bind fun fragment => fragment.body.get? key).or
              (base.get? key))) := by
  -- everything else follows from what is in the slots
  have hslot : (empty.setAll assignments).get? = lastAssigned? assignments :=
    funext (get?_setAll_empty assignments)
  refine ⟨?_, ?_, ?_, ?_, ?_, ?_, ?_⟩
  · intro kind fragment
    rw [hslot]
    exact lastAssigned?_eq_some_iff
  · rw [inOrder, hslot]
    rfl
  · rw [missing, hslot]
    refine List.filter_congr fun kind _ => ?_
    rw [Bool.eq_iff_iff, Option.isNone_iff_eq_none, decide_eq_true_iff, lastAssigned?_eq_none_iff]
  · intro kind fragment
    rw [require_eq_ok_iff, hslot]
  · intro kind error
    exact require_eq_error_iff
  · intro other hother base extras
    have hsame : empty.setAll other = empty.setAll assignments := by
      apply ext_get?
      intro kind
      rw [get?_setAll_empty, get?_setAll_empty, hother]
    rw [hsame]
  · intro base extras key
    rw [get?_composeOver, hslot]

/-- Slots filled from the highest kind down, one of them twice. -/
def filledDownwards : List (Kind × Fragment) :=
  [(.tableMapping, { name := "draft", body := .ofList [("version", .string "0"), ("log", .null)] }),
    (.tableMapping, { name := "mapping", body := .ofList [("version", .string "3")] }),
    (.cloud, { name := "cloud", body := .ofList [("models", .null), ("version", .string "1")] })]

/-- The same last fragments in merge order. -/
def filledUpwards : List (Kind × Fragment) :=
  [(.cloud, { name := "cloud", body := .ofList [("models", .null), ("version", .string "1")] }),
    (.tableMapping, { name := "mapping", body := .ofList [("version", .string "3")] })]

/-- The slots are filled in two orders, and one of them twice: the compositions agree. -/
theorem slots_hold_last_assignment_twoOrders :
    (∀ kind, lastAssigned? filledDownwards kind = lastAssigned? filledUpwards kind) ∧
    (empty.setAll filledDownwards).composeOver (.ofList [("process", .null)]) []
      = (empty.setAll filledUpwards).composeOver (.ofList [("process", .null)]) [] ∧
    ((empty.setAll filledDownwards).composeOver (.ofList [("process", .null)]) []).schema.entries
      = [("process", .null), ("models", .null), ("version", .string "3")] := by
  have hlast : ∀ kind, lastAssigned? filledDownwards kind = lastAssigned? filledUpwards kind := by
    intro kind
    cases kind <;> rfl
  obtain ⟨-, -, -, -, -, hcompose, -⟩ := slots_hold_last_assignment filledUpwards
  exact ⟨hlast, hcompose filledDownwards hlast _ _, rfl⟩

end FragmentSet

end LayeredSchema
