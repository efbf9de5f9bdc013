import LayeredSchema.Proofs.Schema.Layering
import LayeredSchema.Proofs.Text.ByteOrder

/-!
# Provenance

Beside its schema a composition keeps, for every key, the names of the layers that wrote it. Schema
and writers are two maps that every fragment changes, each in its own way. `Records` says what keeps
them together: both have the same keys, and the writers of a key are the layers that hold it.

* `Records.apply` is one fragment, `records_compose` all of them;
* `getLast?_writersOf` reads the last holder off the writers;
* `overlaps_pairwise` and `mem_overlaps` describe the list of overlapping keys.
-/

namespace LayeredSchema

/-! ## The writers of a key -/

/-- The names of the layers that hold a key, in order and with repetitions. -/
def writersOf (layers : List Fragment) (key : String) : List String :=
  (layers.filter fun layer => key ∈ layer.keys).map Fragment.name

/-- A layer that has the key is its latest writer. -/
theorem writersOf_concat (layers : List Fragment) (fragment : Fragment) (key : String) :
    writersOf (layers ++ [fragment]) key
      = writersOf layers key ++ if key ∈ fragment.keys then [fragment.name] else [] := by
  rw [writersOf, List.filter_append, List.map_append, ← writersOf]
  by_cases h : key ∈ fragment.keys <;> simp [h]

/-- The base comes first if it holds the key, under the name of its own. -/
theorem writersOf_layers (base : Mapping) (fragments : List Fragment) (key : String) :
    writersOf (layers base fragments) key
      = (if key ∈ base.keys then ["defaults"] else [])
        ++ (fragments.filter fun fragment => key ∈ fragment.keys).map Fragment.name := by
  have hbase : Fragment.keys { name := Defaults.layerName, body := base } = base.keys := rfl
  rw [writersOf, layers, List.filter_cons, hbase]
  by_cases h : key ∈ base.keys
  · simp [h, Defaults.layerName]
  · simp [h]

/-- A key has as many writers as layers that have it. -/
theorem length_writersOf (layers : List Fragment) (key : String) :
    (writersOf layers key).length = layers.countP fun layer => key ∈ layer.keys := by
  rw [writersOf, List.length_map, List.countP_eq_length_filter]

/-- A key without writers is in no layer. -/
theorem writersOf_eq_nil_iff {layers : List Fragment} {key : String} :
    writersOf layers key = [] ↔ ∀ layer ∈ layers, key ∉ layer.keys := by
  rw [writersOf, List.map_eq_nil_iff, List.filter_eq_nil_iff]
  simp only [decide_eq_true_eq]

/-- The last writer of a key is its last holder. -/
theorem getLast?_writersOf {layers : List Fragment} {key name : String} :
    (writersOf layers key).getLast? = some name ↔
      ∃ layer, IsLastHolder layers key layer ∧ layer.name = name := by
  rw [writersOf, List.getLast?_map, Option.map_eq_some_iff]
  refine exists_congr fun layer => and_congr_left fun _ => ?_
  rw [isLastHolder_iff_isLast]
  exact isLast_iff_getLast?_filter.symm

namespace Composition

/-! ## Recording writers -/

/-- Recording a writer touches what is recorded for its key only. -/
theorem get?_recordWriter (writers : OrderedMap (List String)) (layer key other : String) :
    (recordWriter writers layer key).get? other
      = if other = key then some ((writers.get? key).getD [] ++ [layer])
        else writers.get? other := by
  rw [recordWriter, OrderedMap.get?_insert]

/-- A layer with distinct keys is appended once to the history of each of them. -/
theorem get?_foldl_recordWriter (writers : OrderedMap (List String)) (layer : String)
    {keys : List String} (hnd : keys.Nodup) (other : String) :
    (keys.foldl (fun writers key => recordWriter writers layer key) writers).get? other
      = if other ∈ keys then some ((writers.get? other).getD [] ++ [layer])
        else writers.get? other := by
  induction keys generalizing writers with
  | nil => simp
  | cons key rest ih =>
    rw [List.nodup_cons] at hnd
    rw [List.foldl_cons, ih _ hnd.2, get?_recordWriter]
    by_cases hkey : other = key
    · -- `other` was recorded just now and does not occur again
      subst hkey
      rw [if_neg hnd.1, if_pos rfl, if_pos List.mem_cons_self]
    · have hmem : other ∈ key :: rest ↔ other ∈ rest := by simp [hkey]
      rw [if_neg hkey, if_congr hmem rfl rfl]

/-- Applying a fragment records it for the keys that it has. -/
theorem get?_writers_apply (composition : Composition) (fragment : Fragment) (key : String) :
    (composition.apply fragment).writers.get? key
      = if key ∈ fragment.keys then
          some ((composition.writers.get? key).getD [] ++ [fragment.name])
        else composition.writers.get? key :=
  get?_foldl_recordWriter composition.writers fragment.name fragment.body.distinct key

theorem get?_schema_apply (composition : Composition) (fragment : Fragment) (key : String) :
    (composition.apply fragment).schema.get? key
      = (fragment.body.get? key).or (composition.schema.get? key) :=
  Mapping.get?_overlay composition.schema fragment.body key

/-! ## Schema and writers together -/

/-- The writers fit the schema and tell which of the layers hold a key. -/
structure Records (layers : List Fragment) (composition : Composition) : Prop where
  keys : ∀ key, key ∈ composition.writers.keys ↔ key ∈ composition.schema.keys
  writers : ∀ key, (composition.writers.get? key).getD [] = writersOf layers key

theorem records_ofBase (base : Mapping) : Records (layers base []) (ofBase base) := by
  have hget (key : String) : (ofBase base).writers.get? key
      = (base.get? key).map fun _ => [Defaults.layerName] :=
    OrderedMap.get?_map _ base key
  refine ⟨fun key => ?_, fun key => ?_⟩
  · rw [OrderedMap.mem_keys_iff, OrderedMap.mem_keys_iff, hget]
    show _ ↔ ∃ value, base.get? key = some value
    cases base.get? key <;> simp
  · rw [hget, writersOf_layers]
    by_cases h : key ∈ base.keys
    · obtain ⟨value, hvalue⟩ := OrderedMap.mem_keys_iff.mp h
      rw [hvalue, if_pos h]
      rfl
    · rw [OrderedMap.get?_eq_none_iff.mpr h, if_neg h]
      rfl

/-- A fragment changes schema and writers alike. -/
theorem Records.apply {layers : List Fragment} {composition : Composition}
    (h : Records layers composition) (fragment : Fragment) :
    Records (layers ++ [fragment]) (composition.apply fragment) := by
  refine ⟨fun key => ?_, fun key => ?_⟩
  · have hkeys := h.keys key
    rw [OrderedMap.mem_keys_iff, OrderedMap.mem_keys_iff] at hkeys ⊢
    rw [get?_writers_apply, get?_schema_apply]
    -- a fragment with the key writes it on both sides, another one on neither
    by_cases hkey : key ∈ fragment.keys
    · obtain ⟨value, hvalue⟩ := OrderedMap.mem_keys_iff.mp hkey
      simp [hkey, hvalue]
    · have hnone : fragment.body.get? key = none := OrderedMap.get?_eq_none_iff.mpr hkey
      simp [hkey, hnone, hkeys]
  · rw [get?_writers_apply, writersOf_concat, ← h.writers key]
    by_cases hkey : key ∈ fragment.keys <;> simp [hkey]

/-- Along the layers the records stay exact, from the base on. -/
theorem records_compose (base : Mapping) (fragments : List Fragment) :
    Records (layers base fragments) (compose base fragments) := by
  induction fragments using List.reverseRecOn with
  | nil => exact records_ofBase base
  | append_singleton fragments fragment ih =>
    rw [compose_concat, layers_concat]
    exact ih.apply fragment

/-! ## What the writers tell -/

section

variable {layers : List Fragment} {composition : Composition}

/-- What is recorded for a key of the schema is all its writers, and nothing is for other keys. -/
theorem Records.get?_writers (h : Records layers composition) (key : String) :
    composition.writers.get? key
      = if key ∈ composition.schema.keys then some (writersOf layers key) else none := by
  rw [← h.writers key]
  by_cases hkey : key ∈ composition.writers.keys
  · obtain ⟨names, hnames⟩ := OrderedMap.mem_keys_iff.mp hkey
    rw [if_pos ((h.keys key).mp hkey), hnames]
    rfl
  · rw [if_neg fun hmem => hkey ((h.keys key).mpr hmem), OrderedMap.get?_eq_none_iff.mpr hkey]

/-- The source of a key is the latest writer. -/
theorem Records.sourceOf? (h : Records layers composition) (key : String) :
    composition.sourceOf? key = (writersOf layers key).getLast? := by
  rw [Composition.sourceOf?, ← h.writers key]
  cases composition.writers.get? key <;> rfl

end

/-- An overlap is a key with more than one writer, and lists them all. -/
theorem mem_overlaps {composition : Composition} {overlap : Overlap} :
    overlap ∈ composition.overlaps ↔
      composition.writers.get? overlap.key = some overlap.layers ∧ 1 < overlap.layers.length := by
  rw [overlaps, List.mem_mergeSort, List.mem_map, ← OrderedMap.mem_entries_iff]
  constructor
  · rintro ⟨entry, hentry, rfl⟩
    rw [List.mem_filter, decide_eq_true_iff] at hentry
    exact hentry
  · rintro ⟨hentry, hlen⟩
    exact ⟨(overlap.key, overlap.layers), List.mem_filter.mpr ⟨hentry, by simpa using hlen⟩, rfl⟩

/-- No key has two overlaps. -/
theorem nodup_keys_overlaps (composition : Composition) :
    (composition.overlaps.map Overlap.key).Nodup := by
  have hperm := List.mergeSort_perm
    ((composition.writers.entries.filter fun entry => 1 < entry.2.length).map
      fun entry => (⟨entry.1, entry.2⟩ : Overlap)) fun a b => decide (a.key ≤ b.key)
  rw [overlaps, (hperm.map Overlap.key).nodup_iff, List.map_map]
  exact composition.writers.distinct.sublist (List.filter_sublist.map Prod.fst)

/-- Overlaps are listed in strictly increasing order of the key. -/
theorem overlaps_pairwise (composition : Composition) :
    composition.overlaps.Pairwise fun a b => a.key < b.key := by
  -- sorting leaves them in weakly increasing order, and no two have the same key
  have hsorted : composition.overlaps.Pairwise fun a b => decide (a.key ≤ b.key) = true := by
    apply List.pairwise_mergeSort
    · intro a b c hab hbc
      rw [decide_eq_true_iff] at hab hbc ⊢
      exact String.le_trans hab hbc
    · intro a b
      rw [Bool.or_eq_true, decide_eq_true_iff, decide_eq_true_iff]
      exact String.le_total a.key b.key
  have hdistinct : composition.overlaps.Pairwise fun a b => a.key ≠ b.key :=
    List.pairwise_map.mp (nodup_keys_overlaps composition)
  refine (hsorted.and hdistinct).imp fun {a b} h => ?_
  rw [decide_eq_true_iff] at h
  rw [← String.not_le]
  exact fun hba => h.2 (String.le_antisymm h.1 hba)

/-! ## The provenance of a composition -/

/-- A key without a writer is a key that no layer holds. -/
theorem sourceOf?_compose_eq_none_iff (base : Mapping) (fragments : List Fragment) (key : String) :
    (compose base fragments).sourceOf? key = none ↔
      ∀ layer ∈ layers base fragments, key ∉ layer.keys := by
  rw [(records_compose base fragments).sourceOf?, List.getLast?_eq_none_iff, writersOf_eq_nil_iff]

/-- A key of the schema has a source. -/
theorem exists_sourceOf?_compose {base : Mapping} {fragments : List Fragment} {key : String}
    (h : key ∈ (compose base fragments).schema.keys) :
    ∃ name, (compose base fragments).sourceOf? key = some name := by
  rw [← Option.isSome_iff_exists, ← Option.ne_none_iff_isSome, Ne, sourceOf?_compose_eq_none_iff]
  intro hnone
  rcases (mem_keys_schema_compose base fragments key).mp h with hbase | ⟨fragment, hmem, hkey⟩
  · exact hnone _ List.mem_cons_self hbase
  · exact hnone fragment (List.mem_cons_of_mem _ hmem) hkey

/-- The source of a key is the layer whose value the schema holds. -/
theorem sourceOf?_compose (base : Mapping) (fragments : List Fragment) (key name : String) :
    (compose base fragments).sourceOf? key = some name ↔
      ∃ layer, IsLastHolder (layers base fragments) key layer ∧ layer.name = name ∧
        (compose base fragments).schema.get? key = layer.body.get? key := by
  rw [(records_compose base fragments).sourceOf?, getLast?_writersOf]
  refine exists_congr fun layer => and_congr_right fun hlayer => (and_iff_left ?_).symm
  -- the last holder is where the schema has the value from
  obtain ⟨value, hvalue⟩ := OrderedMap.mem_keys_iff.mp hlayer.1
  rw [hvalue, get?_schema_compose]
  exact ⟨layer, hlayer, hvalue⟩

theorem mem_overlaps_compose (base : Mapping) (fragments : List Fragment) (overlap : Overlap) :
    overlap ∈ (compose base fragments).overlaps ↔
      2 ≤ ((layers base fragments).countP fun layer => overlap.key ∈ layer.keys) ∧
        (compose base fragments).writers.get? overlap.key = some overlap.layers := by
  rw [mem_overlaps, and_comm, ← length_writersOf]
  refine and_congr_left fun hwriters => ?_
  rw [← (records_compose base fragments).writers overlap.key, hwriters]
  rfl

/-- Provenance is exact. A key has writers if the schema has it: the base, if it holds the key, and
the fragments that do, in order. The source of a key is the layer whose value the schema holds.
Overlaps are the keys of two layers or more with all their writers, in the order of their bytes. -/
theorem provenance_exact (base : Mapping) (fragments : List Fragment) :
    (∀ key, key ∈ (compose base fragments).writers.keys ↔
      key ∈ (compose base fragments).schema.keys) ∧
    (∀ key, (compose base fragments).writers.get? key
      = if key ∈ (compose base fragments).schema.keys then
          some ((if key ∈ base.keys then ["defaults"] else [])
            ++ (fragments.filter fun fragment => key ∈ fragment.keys).map Fragment.name)
        else none) ∧
    (∀ key name, (compose base fragments).sourceOf? key = some name ↔
      ∃ layer, IsLastHolder (layers base fragments) key layer ∧ layer.name = name ∧
        (compose base fragments).schema.get? key = layer.body.get? key) ∧
    (∀ key, (compose base fragments).sourceOf? key = none ↔
      ∀ layer ∈ layers base fragments, key ∉ layer.keys) ∧
    (compose base fragments).overlaps.Pairwise
      (fun a b => Text.utf8Bytes a.key < Text.utf8Bytes b.key) ∧
    (∀ overlap, overlap ∈ (compose base fragments).overlaps ↔
      2 ≤ ((layers base fragments).countP fun layer => overlap.key ∈ layer.keys) ∧
        (compose base fragments).writers.get? overlap.key = some overlap.layers) := by
  have hrecords := records_compose base fragments
  refine ⟨hrecords.keys, fun key => ?_, sourceOf?_compose base fragments,
    sourceOf?_compose_eq_none_iff base fragments, ?_, mem_overlaps_compose base fragments⟩
  · rw [hrecords.get?_writers, writersOf_layers]
  · refine (overlaps_pairwise (compose base fragments)).imp fun h => ?_
    exact Text.utf8Bytes_lt_iff.mpr h

end Composition

end LayeredSchema
