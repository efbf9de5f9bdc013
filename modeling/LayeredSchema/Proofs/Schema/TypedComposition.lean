import LayeredSchema.Proofs.Schema.Layering
import LayeredSchema.Proofs.Schema.TypedSchema

/-!
# Typed and bare composition

Layers may be read as typed schemas and merged field by field, or overlaid as mappings. `Represents`
relates the two: the schema has the fields that the mapping has entries for, with equal values.

* `represents_of_ofMapping`: reading drops the entries that are `null` and represents the others;
* `Represents.merge` and `Represents.compose`: merging keeps pace with overlaying;
* `Represents.get?_toMapping`, `Represents.keys_toMapping` and `Represents.ofMapping`: the schema is
  written as the entries of the mapping in the order of the fields, and read back from it.
-/

namespace LayeredSchema.TypedSchema

/-- Every entry of the mapping is a field of the schema with that value, and conversely. -/
structure Represents (schema : TypedSchema) (m : Mapping) : Prop where
  recognized : ∀ key ∈ m.keys, ∃ field, Field.name field = key
  get? : ∀ field, schema.get? field = m.get? field.name

/-! ## Reading represents -/

theorem represents_of_ofMapping {schema : TypedSchema} {m : Mapping}
    (h : ofMapping m = .ok schema) : Represents schema (Mapping.withoutNulls m) := by
  obtain ⟨hadmits, hget⟩ := ofMapping_eq_ok_iff.mp h
  refine ⟨fun key hkey => ?_, hget⟩
  obtain ⟨value, hvalue⟩ := OrderedMap.mem_keys_iff.mp hkey
  have hentry := OrderedMap.mem_entries_iff.mpr (Mapping.get?_withoutNulls_eq_some_iff.mp hvalue).1
  obtain ⟨field, hname, -⟩ := hadmits _ hentry
  exact ⟨field, hname⟩

/-- What is represented can be read, since all its values are of the types of their fields. -/
theorem Represents.ofMapping {schema : TypedSchema} {m : Mapping} (h : Represents schema m) :
    TypedSchema.ofMapping m = .ok schema := by
  have haccepts {field : Field} {value : Value} (hvalue : m.get? field.name = some value) :
      field.type.accepts value = true := by
    rw [← h.get?] at hvalue
    exact accepts_of_get? hvalue
  rw [ofMapping_eq_ok_iff]
  constructor
  · intro entry hentry
    obtain ⟨field, hname⟩ := h.recognized entry.1 (OrderedMap.mem_keys_of_mem_entries hentry)
    have hvalue : m.get? field.name = some entry.2 := by
      rw [hname]
      exact OrderedMap.mem_entries_iff.mp hentry
    exact ⟨field, hname, Or.inr (haccepts hvalue)⟩
  · intro field
    apply Option.ext
    intro value
    rw [h.get?, Mapping.get?_withoutNulls_eq_some_iff]
    constructor
    · intro hvalue
      exact ⟨hvalue, Field.ne_null_of_accepts (haccepts hvalue)⟩
    · intro hvalue
      exact hvalue.1

/-! ## Merging keeps pace with overlaying -/

theorem Represents.merge {base overlay : TypedSchema} {m layer : Mapping}
    (hbase : Represents base m) (hoverlay : Represents overlay layer) :
    Represents (merge base overlay) (Mapping.overlay m layer) := by
  constructor
  · intro key hkey
    obtain ⟨value, hvalue⟩ := OrderedMap.mem_keys_iff.mp hkey
    rw [Mapping.get?_overlay, Option.or_eq_some_iff] at hvalue
    rcases hvalue with hlayer | ⟨-, hm⟩
    · exact hoverlay.recognized key (OrderedMap.mem_keys_iff.mpr ⟨value, hlayer⟩)
    · exact hbase.recognized key (OrderedMap.mem_keys_iff.mpr ⟨value, hm⟩)
  · intro field
    rw [get?_merge, Mapping.get?_overlay, hbase.get?, hoverlay.get?]

theorem Represents.compose {base : TypedSchema} {m : Mapping} {schemas : List TypedSchema}
    {layers : List Mapping} (hbase : Represents base m)
    (hlayers : List.Forall₂ Represents schemas layers) :
    Represents (compose base schemas) (Mapping.compose m layers) := by
  induction hlayers generalizing base m with
  | nil => exact hbase
  | cons hlayer _ ih => exact ih (hbase.merge hlayer)

/-- Layers that are accepted are read in order, each into a schema that represents it. -/
theorem exists_mapM_ofMapping {layers : List Mapping}
    (h : ∀ layer ∈ layers, ∃ schema, ofMapping layer = .ok schema) :
    ∃ schemas, layers.mapM ofMapping = .ok schemas ∧
      List.Forall₂ Represents schemas (layers.map Mapping.withoutNulls) := by
  induction layers with
  | nil => exact ⟨[], rfl, .nil⟩
  | cons layer rest ih =>
    obtain ⟨schema, hschema⟩ := h layer List.mem_cons_self
    obtain ⟨schemas, hschemas, hrest⟩ := ih fun m hm => h m (List.mem_cons_of_mem _ hm)
    refine ⟨schema :: schemas, ?_, .cons (represents_of_ofMapping hschema) hrest⟩
    rw [List.mapM_cons, hschema, hschemas]
    rfl

/-! ## Writing what is represented -/

theorem Represents.get?_toMapping {schema : TypedSchema} {m : Mapping} (h : Represents schema m)
    (key : String) : schema.toMapping.get? key = m.get? key := by
  -- a key that is not recognized is on neither side
  by_cases hkey : ∃ field, Field.name field = key
  · obtain ⟨field, rfl⟩ := hkey
    rw [get?_toMapping_name, h.get?]
  · have hm : m.get? key = none :=
      OrderedMap.get?_eq_none_iff.mpr fun hmem => hkey (h.recognized key hmem)
    rw [hm, Option.eq_none_iff_forall_ne_some]
    intro value hvalue
    obtain ⟨field, hname, -⟩ := get?_toMapping_eq_some_iff.mp hvalue
    exact hkey ⟨field, hname⟩

theorem Represents.keys_toMapping {schema : TypedSchema} {m : Mapping} (h : Represents schema m) :
    schema.toMapping.keys = (Field.all.map Field.name).filter fun key => key ∈ m.keys := by
  rw [TypedSchema.keys_toMapping, List.filter_map]
  congr 1
  refine List.filter_congr fun field _ => ?_
  rw [h.get?, Bool.eq_iff_iff, Option.isSome_iff_exists, ← OrderedMap.mem_keys_iff]
  simp

/-! ## Agreement -/

/-- Layers that are read, merged field by field and written again give the entries that overlaying
them gives once those that are `null` are left out, in the order of the fields. If no layer has a
`null` at its top, overlaying gives those entries itself, and can be read as the merged schema. -/
theorem typed_compose_agrees (base : Mapping) (layers : List Mapping)
    (accepted : ∀ m ∈ base :: layers, ∃ schema, ofMapping m = .ok schema) :
    ∃ typedBase typedLayers,
      ofMapping base = .ok typedBase ∧ layers.mapM ofMapping = .ok typedLayers ∧
      (∀ key, (compose typedBase typedLayers).toMapping.get? key
        = (Mapping.compose (Mapping.withoutNulls base)
            (layers.map Mapping.withoutNulls)).get? key) ∧
      (compose typedBase typedLayers).toMapping.keys
        = ["format", "version", "description", "indexes", "params", "queries", "process",
            "models"].filter (fun key => key ∈ (Mapping.compose (Mapping.withoutNulls base)
              (layers.map Mapping.withoutNulls)).keys) ∧
      ((∀ m ∈ base :: layers, ∀ key, m.get? key ≠ some .null) →
        (∀ key, (compose typedBase typedLayers).toMapping.get? key
          = (Mapping.compose base layers).get? key) ∧
        ofMapping (Mapping.compose base layers) = .ok (compose typedBase typedLayers)) := by
  obtain ⟨typedBase, hbase⟩ := accepted base List.mem_cons_self
  obtain ⟨typedLayers, hlayers, hrepresents⟩ :=
    exists_mapM_ofMapping fun m hm => accepted m (List.mem_cons_of_mem _ hm)
  have h := (represents_of_ofMapping hbase).compose hrepresents
  refine ⟨typedBase, typedLayers, hbase, hlayers, h.get?_toMapping, h.keys_toMapping, ?_⟩
  intro hnull
  -- without nulls at the top nothing is left out
  have hself : layers.map Mapping.withoutNulls = layers := by
    conv => rhs; rw [← List.map_id layers]
    refine List.map_congr_left fun m hm => ?_
    exact Mapping.withoutNulls_eq_self (hnull m (List.mem_cons_of_mem _ hm))
  rw [Mapping.withoutNulls_eq_self (hnull base List.mem_cons_self), hself] at h
  exact ⟨h.get?_toMapping, h.ofMapping⟩

/-- A version that a `null` does not hide, and a base and a layer without one. -/
theorem typed_compose_agrees_version :
    (∀ m ∈ [(OrderedMap.ofList [("version", .string "1")] : Mapping),
        OrderedMap.ofList [("version", .null)]], ∃ schema, ofMapping m = .ok schema) ∧
    (∃ typedBase typedLayers,
      ofMapping (OrderedMap.ofList [("version", .string "1")]) = .ok typedBase ∧
      [(OrderedMap.ofList [("version", .null)] : Mapping)].mapM ofMapping = .ok typedLayers ∧
      (compose typedBase typedLayers).toMapping.keys = ["version"] ∧
      (compose typedBase typedLayers).toMapping.get? "version" = some (.string "1")) ∧
    (∀ m ∈ [(OrderedMap.ofList [("version", .string "1")] : Mapping),
        OrderedMap.ofList [("format", .string "onetable:1.1.0")]],
      (∃ schema, ofMapping m = .ok schema) ∧ ∀ key, m.get? key ≠ some .null) ∧
    ∃ typedBase typedLayers,
      ofMapping (OrderedMap.ofList [("version", .string "1")]) = .ok typedBase ∧
      [(OrderedMap.ofList [("format", .string "onetable:1.1.0")] : Mapping)].mapM ofMapping
        = .ok typedLayers ∧
      (compose typedBase typedLayers).toMapping.keys = ["format", "version"] ∧
      ofMapping (OrderedMap.ofList [("version", .string "1"), ("format", .string "onetable:1.1.0")])
        = .ok (compose typedBase typedLayers) := by
  have hnulls : ∀ m ∈ [(OrderedMap.ofList [("version", .string "1")] : Mapping),
      OrderedMap.ofList [("version", .null)]], ∃ schema, ofMapping m = .ok schema := by
    intro m hm
    simp only [List.mem_cons, List.not_mem_nil, or_false] at hm
    rcases hm with rfl | rfl <;> exact ⟨_, rfl⟩
  have hvalues : ∀ m ∈ [(OrderedMap.ofList [("version", .string "1")] : Mapping),
      OrderedMap.ofList [("format", .string "onetable:1.1.0")]],
      (∃ schema, ofMapping m = .ok schema) ∧ ∀ key, m.get? key ≠ some .null := by
    intro m hm
    simp only [List.mem_cons, List.not_mem_nil, or_false] at hm
    rcases hm with rfl | rfl
    all_goals
      refine ⟨⟨_, rfl⟩, fun key hkey => ?_⟩
      rw [← OrderedMap.mem_entries_iff] at hkey
      simp [OrderedMap.ofList, OrderedMap.empty, insertEntry] at hkey
  refine ⟨hnulls, ?_, hvalues, ?_⟩
  · obtain ⟨typedBase, typedLayers, hbase, hlayers, hget, hkeys, -⟩ :=
      typed_compose_agrees _ _ hnulls
    refine ⟨typedBase, typedLayers, hbase, hlayers, ?_, ?_⟩
    · rw [hkeys]
      decide
    · rw [hget]
      rfl
  · obtain ⟨typedBase, typedLayers, hbase, hlayers, -, hkeys, hread⟩ :=
      typed_compose_agrees _ _ fun m hm => (hvalues m hm).1
    refine ⟨typedBase, typedLayers, hbase, hlayers, ?_, ?_⟩
    · rw [hkeys]
      decide
    · exact (hread fun m hm => (hvalues m hm).2).2

end LayeredSchema.TypedSchema
