import LayeredSchema.Proofs.Document.OrderedMap
import LayeredSchema.Proofs.Lists
import LayeredSchema.Schema.Composition
import Mathlib.Data.List.Induction

/-!
# Layering

Composing lays fragments over a base. The layers of a composition are the base, under its own name,
and then the fragments; for each key one of them is the last that holds it.

* `Mapping.keys_compose` and `Mapping.get?_compose_concat` say what one layer after the other does
  to keys and values;
* `Composition.get?_schema_compose` finds the value of a key in its last holder.
-/

namespace LayeredSchema

open OrderedMap (newKeys)

namespace Mapping

/-! ## Mappings over a base -/

/-- The layer comes first, and the base stands in for what it lacks. -/
theorem get?_overlay (base layer : Mapping) (key : String) :
    (overlay base layer).get? key = (layer.get? key).or (base.get? key) :=
  OrderedMap.get?_insertAll_entries base layer key

theorem compose_concat (base : Mapping) (layers : List Mapping) (layer : Mapping) :
    compose base (layers ++ [layer]) = overlay (compose base layers) layer := by
  rw [compose, List.foldl_append]
  rfl

/-- The last layer comes first, and the layers below stand in for what it lacks. -/
theorem get?_compose_concat (base : Mapping) (layers : List Mapping) (layer : Mapping)
    (key : String) :
    (compose base (layers ++ [layer])).get? key
      = (layer.get? key).or ((compose base layers).get? key) := by
  rw [compose_concat, get?_overlay]

/-- Overlaying one mapping after the other writes all their entries in order. -/
theorem compose_eq_insertAll (base : Mapping) (layers : List Mapping) :
    compose base layers = base.insertAll (layers.flatMap OrderedMap.entries) := by
  induction layers generalizing base with
  | nil => rfl
  | cons layer rest ih =>
    rw [List.flatMap_cons, OrderedMap.insertAll_append, ← ih]
    rfl

/-- The keys of the base come first; a layer puts its new keys behind those from before. -/
theorem keys_compose (base : Mapping) (layers : List Mapping) :
    (compose base layers).keys
      = base.keys ++ newKeys base.keys (layers.flatMap OrderedMap.keys) := by
  rw [compose_eq_insertAll, OrderedMap.keys_insertAll, List.map_flatMap]
  rfl

example :
    (compose (OrderedMap.ofList [("version", .string "1"), ("models", .null)])
      [OrderedMap.ofList [("params", .null), ("version", .string "2")]]).entries
      = [("version", .string "2"), ("models", .null), ("params", .null)] := rfl

end Mapping

/-! ## Layers and their last holders -/

/-- The layers of a composition, lowest first. -/
def layers (base : Mapping) (fragments : List Fragment) : List Fragment :=
  { name := Defaults.layerName, body := base } :: fragments

theorem layers_concat (base : Mapping) (fragments : List Fragment) (fragment : Fragment) :
    layers base (fragments ++ [fragment]) = layers base fragments ++ [fragment] := rfl

/-- The layer holds the key, and no layer after it does. -/
def IsLastHolder (layers : List Fragment) (key : String) (layer : Fragment) : Prop :=
  key ∈ layer.keys ∧
    ∃ before after, layers = before ++ layer :: after ∧ ∀ later ∈ after, key ∉ later.keys

/-- The last holder of a key is the last layer that has it. -/
theorem isLastHolder_iff_isLast {layers : List Fragment} {key : String} {layer : Fragment} :
    IsLastHolder layers key layer ↔ IsLast (fun other => key ∈ other.keys) layers layer :=
  Iff.rfl

theorem IsLastHolder.mem {layers : List Fragment} {key : String} {layer : Fragment}
    (h : IsLastHolder layers key layer) : layer ∈ layers := by
  obtain ⟨-, before, after, rfl, -⟩ := h
  exact List.mem_append_right before List.mem_cons_self

/-- A last layer that holds the key is its last holder; one that does not changes nothing. -/
theorem isLastHolder_concat {layers : List Fragment} {key : String} {fragment layer : Fragment} :
    IsLastHolder (layers ++ [fragment]) key layer ↔
      (key ∈ fragment.keys ∧ layer = fragment) ∨
        (key ∉ fragment.keys ∧ IsLastHolder layers key layer) := by
  rw [isLastHolder_iff_isLast, isLastHolder_iff_isLast]
  exact isLast_concat_iff

theorem isLastHolder_singleton {key : String} {fragment layer : Fragment} :
    IsLastHolder [fragment] key layer ↔ key ∈ fragment.keys ∧ layer = fragment := by
  rw [← List.nil_append [fragment], isLastHolder_concat]
  have hnil : ¬ IsLastHolder [] key layer := fun h => List.not_mem_nil h.mem
  simp [hnil]

namespace Composition

/-! ## The composed schema -/

theorem compose_concat (base : Mapping) (fragments : List Fragment) (fragment : Fragment) :
    compose base (fragments ++ [fragment]) = (compose base fragments).apply fragment := by
  rw [compose, List.foldl_append]
  rfl

/-- Recording writers does not touch the schema. -/
theorem schema_compose (base : Mapping) (fragments : List Fragment) :
    (compose base fragments).schema = Mapping.compose base (fragments.map Fragment.body) := by
  induction fragments using List.reverseRecOn with
  | nil => rfl
  | append_singleton fragments fragment ih =>
    rw [compose_concat, List.map_append, List.map_singleton, Mapping.compose_concat, ← ih]
    rfl

/-- The keys of the base come first, and new ones follow by first appearance. -/
theorem keys_schema_compose (base : Mapping) (fragments : List Fragment) :
    (compose base fragments).schema.keys
      = base.keys ++ newKeys base.keys (fragments.flatMap Fragment.keys) := by
  rw [schema_compose, Mapping.keys_compose, List.flatMap_map]
  rfl

/-- The keys of the base come first, in their order. -/
theorem take_keys_schema_compose (base : Mapping) (fragments : List Fragment) :
    (compose base fragments).schema.keys.take base.keys.length = base.keys := by
  rw [keys_schema_compose, List.take_left]

/-- Of a composition too the last fragment comes first. -/
theorem get?_schema_compose_concat (base : Mapping) (fragments : List Fragment)
    (fragment : Fragment) (key : String) :
    (compose base (fragments ++ [fragment])).schema.get? key
      = (fragment.body.get? key).or ((compose base fragments).schema.get? key) := by
  rw [schema_compose, schema_compose, List.map_append, List.map_singleton,
    Mapping.get?_compose_concat]

/-- The value of a key is the one that its last holder gives it. -/
theorem get?_schema_compose (base : Mapping) (fragments : List Fragment) (key : String)
    (value : Value) :
    (compose base fragments).schema.get? key = some value ↔
      ∃ layer, IsLastHolder (layers base fragments) key layer ∧
        layer.body.get? key = some value := by
  -- induction on the layers from the last one, which decides if it holds the key
  induction fragments using List.reverseRecOn with
  | nil =>
    rw [layers]
    simp only [isLastHolder_singleton]
    constructor
    · intro h
      exact ⟨_, ⟨OrderedMap.mem_keys_iff.mpr ⟨value, h⟩, rfl⟩, h⟩
    · rintro ⟨layer, ⟨-, rfl⟩, h⟩
      exact h
  | append_singleton fragments fragment ih =>
    rw [get?_schema_compose_concat, layers_concat]
    simp only [isLastHolder_concat]
    by_cases hkey : key ∈ fragment.keys
    · obtain ⟨written, hwritten⟩ := OrderedMap.mem_keys_iff.mp hkey
      simp [hkey, hwritten]
    · have hnone : fragment.body.get? key = none := OrderedMap.get?_eq_none_iff.mpr hkey
      simp [hkey, hnone, ih]

/-- The value of a key is found from the last fragment to the first, and then in the base. -/
theorem get?_schema_compose_eq_findSome? (base : Mapping) (fragments : List Fragment)
    (key : String) :
    (compose base fragments).schema.get? key
      = (fragments.reverse.findSome? fun fragment => fragment.body.get? key).or
          (base.get? key) := by
  induction fragments using List.reverseRecOn with
  | nil => rfl
  | append_singleton fragments fragment ih =>
    rw [get?_schema_compose_concat, ih, List.reverse_concat, List.findSome?_cons]
    cases fragment.body.get? key with
    | none => rfl
    | some value => rfl

/-- No key is lost, and none comes from elsewhere. -/
theorem mem_keys_schema_compose (base : Mapping) (fragments : List Fragment) (key : String) :
    key ∈ (compose base fragments).schema.keys ↔
      key ∈ base.keys ∨ ∃ fragment ∈ fragments, key ∈ fragment.keys := by
  rw [schema_compose, Mapping.keys_compose, List.mem_append, newKeys, List.mem_eraseDups,
    List.mem_filter, List.flatMap_map, List.mem_flatMap, decide_eq_true_iff]
  by_cases hbase : key ∈ base.keys
  · simp [hbase]
  · simp only [hbase, false_or, not_false_eq_true, and_true]
    rfl

end Composition

namespace Composer

/-- Fragments are gathered in the order in which they are added. -/
theorem foldl_add (composer : Composer) (fragments : List Fragment) :
    fragments.foldl add composer
      = { composer with fragments := composer.fragments ++ fragments } := by
  induction fragments generalizing composer with
  | nil => simp
  | cons fragment rest ih =>
    rw [List.foldl_cons, ih, add, List.append_assoc, List.singleton_append]

/-- Fragments added one by one are composed in that order. -/
theorem compose_foldl_add (base : Mapping) (fragments : List Fragment) :
    (fragments.foldl add (ofBase base)).compose = Composition.compose base fragments := by
  rw [foldl_add]
  rfl

end Composer

/-- The right-biased law. A composed schema holds the keys of its layers, each with the value of the
last layer that holds it, nested mappings and `null` included. The keys of the base stay where they
are, and new ones follow by first appearance. Composing bare mappings or adding the fragments to a
composer gives the same mapping. -/
theorem Composition.schema_right_biased (base : Mapping) (fragments : List Fragment) :
    (∀ key, key ∈ (Composition.compose base fragments).schema.keys ↔
      key ∈ base.keys ∨ ∃ fragment ∈ fragments, key ∈ fragment.keys) ∧
    (∀ key value, (Composition.compose base fragments).schema.get? key = some value ↔
      ∃ layer, IsLastHolder (layers base fragments) key layer ∧
        layer.body.get? key = some value) ∧
    (Composition.compose base fragments).schema.keys
      = base.keys ++ newKeys base.keys (fragments.flatMap Fragment.keys) ∧
    (Composition.compose base fragments).schema.keys.Nodup ∧
    Mapping.compose base (fragments.map Fragment.body)
      = (Composition.compose base fragments).schema ∧
    (fragments.foldl Composer.add (Composer.ofBase base)).compose.schema
      = (Composition.compose base fragments).schema := by
  refine ⟨mem_keys_schema_compose base fragments, get?_schema_compose base fragments, ?_,
    (Composition.compose base fragments).schema.distinct, (schema_compose base fragments).symm, ?_⟩
  · rw [schema_compose, Mapping.keys_compose, List.flatMap_map]
    rfl
  · rw [Composer.compose_foldl_add]

end LayeredSchema
