import LayeredSchema.Proofs.Schema.Provenance

/-!
# Reordering fragments

What a composition tells of a key hangs on the fragments that hold the key, in their order, and on
no other ones. So fragments that have no key in common may change places, and only the places of
keys in the schema change with them.

* `agrees_compose` compares two lists of fragments by the holders of each key;
* `holders_rearrange` finds them unchanged where colliding fragments keep their order.
-/

namespace LayeredSchema

/-! ## Holders of a key -/

/-- The layers that hold a key, in order. -/
def holders (layers : List Fragment) (key : String) : List Fragment :=
  layers.filter fun layer => key ∈ layer.keys

theorem writersOf_eq_map_holders (layers : List Fragment) (key : String) :
    writersOf layers key = (holders layers key).map Fragment.name := rfl

/-- The base is below the fragments whatever their order. -/
theorem holders_layers_congr {base : Mapping} {fragments others : List Fragment} {key : String}
    (h : holders fragments key = holders others key) :
    holders (layers base fragments) key = holders (layers base others) key := by
  rw [holders, holders, layers, layers, List.filter_cons, List.filter_cons, ← holders, ← holders, h]

theorem isLastHolder_iff_getLast?_holders {layers : List Fragment} {key : String}
    {layer : Fragment} :
    IsLastHolder layers key layer ↔ (holders layers key).getLast? = some layer := by
  rw [isLastHolder_iff_isLast, holders]
  exact isLast_iff_getLast?_filter

namespace Composition

/-! ## Compositions that tell the same -/

/-- Two compositions give every key the same value and the same writers. The places of keys are not
compared. -/
structure Agrees (a b : Composition) : Prop where
  value : ∀ key, a.get? key = b.get? key
  writers : ∀ key, a.writers.get? key = b.writers.get? key

section

variable {a b : Composition}

theorem Agrees.sourceOf? (h : Agrees a b) (key : String) : a.sourceOf? key = b.sourceOf? key := by
  rw [Composition.sourceOf?, Composition.sourceOf?, h.writers key]

theorem Agrees.mem_keys_iff (h : Agrees a b) (key : String) :
    key ∈ a.schema.keys ↔ key ∈ b.schema.keys :=
  OrderedMap.mem_keys_iff_of_get?_eq (h.value key)

theorem Agrees.keys_perm (h : Agrees a b) : a.schema.keys.Perm b.schema.keys :=
  (List.perm_ext_iff_of_nodup a.schema.distinct b.schema.distinct).mpr h.mem_keys_iff

theorem nodup_overlaps (composition : Composition) : composition.overlaps.Nodup :=
  (nodup_keys_overlaps composition).of_map Overlap.key

/-- Overlaps are sorted, so having the same ones is having the same list. -/
theorem Agrees.overlaps (h : Agrees a b) : a.overlaps = b.overlaps := by
  have hperm : a.overlaps.Perm b.overlaps := by
    rw [List.perm_ext_iff_of_nodup (nodup_overlaps a) (nodup_overlaps b)]
    intro overlap
    rw [mem_overlaps, mem_overlaps, h.writers overlap.key]
  refine hperm.eq_of_pairwise ?_ (overlaps_pairwise a) (overlaps_pairwise b)
  intro first second _ _ hlt hgt
  exact absurd hgt (String.lt_asymm hlt)

theorem Agrees.fragmentOverlaps (h : Agrees a b) : a.fragmentOverlaps = b.fragmentOverlaps := by
  rw [Composition.fragmentOverlaps, Composition.fragmentOverlaps, h.overlaps]

end

theorem get?_compose_congr (base : Mapping) {fragments others : List Fragment} {key : String}
    (h : holders fragments key = holders others key) :
    (compose base fragments).get? key = (compose base others).get? key := by
  refine Option.ext fun value => ?_
  show (compose base fragments).schema.get? key = some value
    ↔ (compose base others).schema.get? key = some value
  rw [get?_schema_compose, get?_schema_compose]
  simp only [isLastHolder_iff_getLast?_holders, holders_layers_congr h]

/-- Lists of fragments in which every key has the same holders compose to the same values and
writers. -/
theorem agrees_compose (base : Mapping) {fragments others : List Fragment}
    (h : ∀ key, holders fragments key = holders others key) :
    Agrees (compose base fragments) (compose base others) := by
  refine ⟨fun key => get?_compose_congr base (h key), fun key => ?_⟩
  have hkey : key ∈ (compose base fragments).schema.keys ↔
      key ∈ (compose base others).schema.keys :=
    OrderedMap.mem_keys_iff_of_get?_eq (get?_compose_congr base (h key))
  rw [(records_compose base fragments).get?_writers, (records_compose base others).get?_writers,
    writersOf_eq_map_holders, writersOf_eq_map_holders, holders_layers_congr (h key),
    if_congr hkey rfl rfl]

end Composition

/-! ## Another order -/

namespace Fragment

/-- Two fragments collide if they have a key in common. -/
def Collides (a b : Fragment) : Prop :=
  ∃ key ∈ a.keys, key ∈ b.keys

instance (a b : Fragment) : Decidable (a.Collides b) :=
  inferInstanceAs (Decidable (∃ key ∈ a.keys, key ∈ b.keys))

end Fragment

/-- Fragments in another order: the one that comes to stand at `i` stood at `place i`. -/
def rearrange (fragments : List Fragment) (place : Equiv.Perm (Fin fragments.length)) :
    List Fragment :=
  List.ofFn fun i => fragments[place i]

/-- Of two fragments that collide, the one that stood first still stands first. -/
def KeepsCollisions (fragments : List Fragment) (place : Equiv.Perm (Fin fragments.length)) :
    Prop :=
  ∀ i j, i < j → fragments[place i].Collides fragments[place j] → place i < place j

instance (fragments : List Fragment) (place : Equiv.Perm (Fin fragments.length)) :
    Decidable (KeepsCollisions fragments place) :=
  inferInstanceAs (Decidable (∀ i j, i < j →
    fragments[place i].Collides fragments[place j] → place i < place j))

/-- The holders of a key collide with each other, so they are found in their old order. -/
theorem holders_rearrange {fragments : List Fragment} {place : Equiv.Perm (Fin fragments.length)}
    (h : KeepsCollisions fragments place) (key : String) :
    holders (rearrange fragments place) key = holders fragments key := by
  refine filter_ofFn_place fun i j hij hi hj => ?_
  exact h i j hij ⟨key, of_decide_eq_true hi, of_decide_eq_true hj⟩

/-- Three fragments of which the first and the last collide. -/
def twoVersions : List Fragment :=
  [{ name := "cloud", body := .ofList [("version", .string "1"), ("models", .object [])] },
   { name := "metric", body := .ofList [("params", .null)] },
   { name := "table-mapping", body := .ofList [("version", .string "2")] }]

namespace Composition

/-- Only collisions matter. Fragments may be rearranged as long as any two that collide keep their
order: every key keeps its value, its writers and its source, the reports of overlaps are the same
lists, and the schema has the same keys, though maybe in other places. -/
theorem compose_rearrange (base : Mapping) (fragments : List Fragment)
    (place : Equiv.Perm (Fin fragments.length)) (h : KeepsCollisions fragments place) :
    (∀ key, (compose base (rearrange fragments place)).get? key
      = (compose base fragments).get? key) ∧
    (∀ key, (compose base (rearrange fragments place)).writers.get? key
      = (compose base fragments).writers.get? key) ∧
    (∀ key, (compose base (rearrange fragments place)).sourceOf? key
      = (compose base fragments).sourceOf? key) ∧
    (compose base (rearrange fragments place)).overlaps = (compose base fragments).overlaps ∧
    (compose base (rearrange fragments place)).fragmentOverlaps
      = (compose base fragments).fragmentOverlaps ∧
    (compose base (rearrange fragments place)).schema.keys.Perm
      (compose base fragments).schema.keys := by
  have hagrees := agrees_compose base (holders_rearrange h)
  exact ⟨hagrees.value, hagrees.writers, hagrees.sourceOf?, hagrees.overlaps,
    hagrees.fragmentOverlaps, hagrees.keys_perm⟩

/-- The first two fragments have no key in common and change places; the third one, which gives
another version than the first, stays behind it. -/
theorem compose_rearrange_swap :
    KeepsCollisions twoVersions (Equiv.swap ⟨0, by decide⟩ ⟨1, by decide⟩) ∧
    (rearrange twoVersions (Equiv.swap ⟨0, by decide⟩ ⟨1, by decide⟩)).map Fragment.name
      = ["metric", "cloud", "table-mapping"] ∧
    (compose Defaults.base (rearrange twoVersions
      (Equiv.swap ⟨0, by decide⟩ ⟨1, by decide⟩))).get? "version" = some (.string "2") ∧
    (compose Defaults.base (rearrange twoVersions
      (Equiv.swap ⟨0, by decide⟩ ⟨1, by decide⟩))).writers.get? "version"
        = some ["defaults", "cloud", "table-mapping"] := by
  have hkeeps : KeepsCollisions twoVersions (Equiv.swap ⟨0, by decide⟩ ⟨1, by decide⟩) := by decide
  obtain ⟨hvalue, hwriters, -⟩ := compose_rearrange Defaults.base twoVersions _ hkeeps
  refine ⟨hkeeps, by decide, ?_, ?_⟩
  · rw [hvalue]
    rfl
  · rw [hwriters]
    rfl

end Composition

end LayeredSchema
