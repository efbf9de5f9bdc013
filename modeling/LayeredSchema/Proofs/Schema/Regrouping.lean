import LayeredSchema.Proofs.Schema.Provenance

/-!
# Grouping layers

Writing one mapping over another is associative, and writing a mapping over itself changes nothing;
both hold with the places of keys, `Mapping.overlay_assoc` and `Mapping.overlay_self`. So layers may
be composed in groups first, and a composed mapping is not changed by the layers that it was made
of.

* `Mapping.compose_eq_overlay` gathers all layers in one that is written over the base;
* `Composition.sourceOf?_compose_append` and `Composition.sourceOf?_compose_schema` find the source
  of a key where fragments are added to a composition, or to its schema alone.
-/

namespace LayeredSchema

namespace Mapping

/-! ## Overlays -/

theorem keys_overlay (base layer : Mapping) :
    (overlay base layer).keys = base.keys ++ layer.keys.filter fun key => key ∉ base.keys :=
  OrderedMap.keys_insertAll_entries base layer

theorem overlay_assoc (first second third : Mapping) :
    overlay (overlay first second) third = overlay first (overlay second third) := by
  apply OrderedMap.eq_of_keys_eq
  · -- a key of the third is new to both others exactly if it is new to one after the other
    have hnew : (third.keys.filter fun key => key ∉ (overlay first second).keys)
        = (third.keys.filter fun key => key ∉ second.keys).filter fun key => key ∉ first.keys := by
      rw [List.filter_filter]
      refine List.filter_congr fun key _ => ?_
      rw [keys_overlay]
      by_cases hfirst : key ∈ first.keys <;> simp [hfirst]
    rw [keys_overlay, hnew, keys_overlay, keys_overlay, keys_overlay, List.filter_append,
      List.append_assoc]
  · intro key
    rw [get?_overlay, get?_overlay, get?_overlay, get?_overlay, Option.or_assoc]

theorem overlay_empty (base : Mapping) : overlay base .empty = base := rfl

theorem overlay_self (base : Mapping) : overlay base base = base := by
  apply OrderedMap.eq_of_keys_eq
  · have hnone : (base.keys.filter fun key => key ∉ base.keys) = [] := by simp
    rw [keys_overlay, hnone, List.append_nil]
  · intro key
    rw [get?_overlay, Option.or_self]

/-! ## Groups of layers -/

theorem compose_append (base : Mapping) (first second : List Mapping) :
    compose base (first ++ second) = compose (compose base first) second :=
  List.foldl_append

/-- Composing over a base is writing one mapping over it, which does not depend on the base. -/
theorem compose_eq_overlay (base : Mapping) (layers : List Mapping) :
    compose base layers = overlay base (compose .empty layers) := by
  induction layers using List.reverseRecOn with
  | nil => exact (overlay_empty base).symm
  | append_singleton layers layer ih => rw [compose_concat, compose_concat, ih, overlay_assoc]

theorem compose_flatten (base : Mapping) (groups : List (List Mapping)) :
    compose base groups.flatten = compose base (groups.map (compose .empty)) := by
  induction groups generalizing base with
  | nil => rfl
  | cons group rest ih =>
    calc compose base (group :: rest).flatten
        = compose (compose base group) rest.flatten := by rw [List.flatten_cons, compose_append]
      _ = compose (compose base group) (rest.map (compose .empty)) := ih _
      _ = compose base ((group :: rest).map (compose .empty)) := by
        rw [compose_eq_overlay base group]
        rfl

/-- Writing a composed mapping over its base gives the composed mapping. -/
theorem compose_compose_base (base : Mapping) (layers : List Mapping) :
    compose base [compose base layers] = compose base layers := by
  show overlay base (compose base layers) = compose base layers
  rw [compose_eq_overlay, ← overlay_assoc, overlay_self]

/-- The layers of a composed mapping have nothing to add to it. -/
theorem compose_compose_layers (base : Mapping) (layers : List Mapping) :
    compose (compose base layers) layers = compose base layers := by
  rw [compose_eq_overlay (compose base layers), compose_eq_overlay base, overlay_assoc,
    overlay_self]

end Mapping

theorem writersOf_append (first second : List Fragment) (key : String) :
    writersOf (first ++ second) key = writersOf first key ++ writersOf second key := by
  rw [writersOf, List.filter_append, List.map_append, ← writersOf, ← writersOf]

namespace Composition

/-! ## Fragments over a composition -/

theorem schema_compose_append (base : Mapping) (earlier later : List Fragment) :
    (compose base (earlier ++ later)).schema
      = (compose (compose base earlier).schema later).schema := by
  rw [schema_compose, schema_compose, schema_compose, List.map_append, Mapping.compose_append]

/-- The source of a key is among the later fragments if one of them holds the key. -/
theorem sourceOf?_compose_append (base : Mapping) (earlier later : List Fragment) (key : String) :
    (compose base (earlier ++ later)).sourceOf? key
      = (writersOf later key).getLast?.or ((compose base earlier).sourceOf? key) := by
  have hlayers : layers base (earlier ++ later) = layers base earlier ++ later := rfl
  rw [(records_compose base (earlier ++ later)).sourceOf?, (records_compose base earlier).sourceOf?,
    hlayers, writersOf_append, List.getLast?_append]

/-- Over a schema alone, a key that no fragment holds is one of the base. -/
theorem sourceOf?_compose_schema (base : Mapping) (fragments : List Fragment) (key : String) :
    (compose base fragments).sourceOf? key
      = (writersOf fragments key).getLast?.or
          (if key ∈ base.keys then some "defaults" else none) := by
  rw [(records_compose base fragments).sourceOf?, writersOf_layers, ← writersOf,
    List.getLast?_append]
  by_cases hkey : key ∈ base.keys <;> simp [hkey]

/-- Over the schema of an earlier composition, keys of the fragments have the sources that they have
over the earlier composition itself, and all other keys come from the base. -/
theorem sourceOf?_compose_over (base : Mapping) (earlier later : List Fragment) (key : String) :
    (compose (compose base earlier).schema later).sourceOf? key
      = if ∃ fragment ∈ later, key ∈ fragment.keys then
          (compose base (earlier ++ later)).sourceOf? key
        else if key ∈ (compose base (earlier ++ later)).schema.keys then some "defaults"
        else none := by
  rw [sourceOf?_compose_schema, sourceOf?_compose_append]
  by_cases hlater : ∃ fragment ∈ later, key ∈ fragment.keys
  · -- some later fragment is a writer of the key, so the last writer is one of them
    have hwriters : writersOf later key ≠ [] := by
      intro hnil
      obtain ⟨fragment, hmem, hkey⟩ := hlater
      exact writersOf_eq_nil_iff.mp hnil fragment hmem hkey
    rw [if_pos hlater, List.getLast?_eq_some_getLast hwriters, Option.some_or, Option.some_or]
  · have hwriters : writersOf later key = [] := by
      rw [writersOf_eq_nil_iff]
      intro fragment hmem hkey
      exact hlater ⟨fragment, hmem, hkey⟩
    have hmem : key ∈ (compose base (earlier ++ later)).schema.keys ↔
        key ∈ (compose base earlier).schema.keys := by
      rw [schema_compose_append, mem_keys_schema_compose, or_iff_left hlater]
    rw [if_neg hlater, hwriters, List.getLast?_nil, Option.none_or, if_congr hmem rfl rfl]

/-- Grouping does not matter. Layers that are cut into groups, each of which is composed by itself,
compose to the same mapping with its keys in the same places. A composed mapping is left as it is
when it is written over its base, or when its layers are written over it once more. Fragments may
come over the schema of an earlier composition: the schema is the one of all fragments together, and
so are the sources of the keys that these fragments hold, while all other keys come from the
base. -/
theorem compose_regrouped :
    (∀ (base : Mapping) (groups : List (List Mapping)),
      Mapping.compose base (groups.map (Mapping.compose .empty))
        = Mapping.compose base groups.flatten) ∧
    (∀ (base : Mapping) (layers : List Mapping),
      Mapping.compose base [Mapping.compose base layers] = Mapping.compose base layers ∧
      Mapping.compose (Mapping.compose base layers) layers = Mapping.compose base layers) ∧
    (∀ (base : Mapping) (earlier later : List Fragment),
      (compose (compose base earlier).schema later).schema
        = (compose base (earlier ++ later)).schema ∧
      ∀ key, (compose (compose base earlier).schema later).sourceOf? key
        = if ∃ fragment ∈ later, key ∈ fragment.keys then
            (compose base (earlier ++ later)).sourceOf? key
          else if key ∈ (compose base (earlier ++ later)).schema.keys then some "defaults"
          else none) := by
  refine ⟨?_, ?_, ?_⟩
  · intro base groups
    exact (Mapping.compose_flatten base groups).symm
  · intro base layers
    exact ⟨Mapping.compose_compose_base base layers, Mapping.compose_compose_layers base layers⟩
  · intro base earlier later
    exact ⟨(schema_compose_append base earlier later).symm,
      sourceOf?_compose_over base earlier later⟩

end Composition

end LayeredSchema
