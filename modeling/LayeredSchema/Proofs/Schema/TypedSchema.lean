import LayeredSchema.Proofs.Document.OrderedMap
import LayeredSchema.Proofs.Lists
import LayeredSchema.Schema.TypedSchema
import Mathlib.Data.List.Nodup

/-!
# Reading and writing typed schemas

A typed schema is determined by the values of its fields, `eq_of_get?_eq`. Reading one from a
mapping succeeds exactly if the mapping is one of typed entries, `Mapping.IsTyped`, and then takes
those that are not `null`, `ofMapping_eq_ok_iff`. Writing it puts the fields that are present in the
order of their declaration, `keys_toMapping` and `get?_toMapping_name`.
-/

namespace LayeredSchema

namespace Field

/-! ## Fields and their names -/

/-- No field is left out of the list of all of them. -/
theorem mem_all (field : Field) : field ∈ all := by
  cases field <;> decide

theorem nodup_names : (all.map name).Nodup := by
  decide

/-- A field is found under its own name. -/
theorem ofName?_name (field : Field) : ofName? field.name = some field := by
  cases field <;> rfl

/-- Different fields have different names. -/
theorem name_inj {field other : Field} : field.name = other.name ↔ field = other := by
  constructor
  · intro h
    have hname := ofName?_name field
    rw [h, ofName?_name other] at hname
    exact (Option.some.inj hname).symm
  · intro h
    rw [h]

/-- A key names at most one field, the one whose name it is. -/
theorem ofName?_eq_some_iff {key : String} {field : Field} :
    ofName? key = some field ↔ field.name = key := by
  constructor
  · intro h
    simpa using List.find?_some h
  · intro h
    rw [← h, ofName?_name]

/-- A field may be given as `null`, which leaves it absent, or as a value of its type. -/
def Admits (field : Field) (value : Value) : Prop :=
  value = .null ∨ field.type.accepts value = true

/-- No type accepts null: a null stands for a field without a value. -/
theorem ne_null_of_accepts {field : Field} {value : Value}
    (h : field.type.accepts value = true) : value ≠ .null := by
  rintro rfl
  cases field <;> cases h

end Field

/-- The recognized keys are the names of the fields. -/
theorem isRecognized_iff {key : String} :
    isRecognized key = true ↔ ∃ field, Field.name field = key := by
  rw [isRecognized, Option.isSome_iff_exists]
  exact exists_congr fun field => Field.ofName?_eq_some_iff

/-- There are no unknown keys exactly if every key names a field. -/
theorem unknownKeys_eq_nil_iff {m : Mapping} :
    unknownKeys m = [] ↔ ∀ key ∈ m.keys, ∃ field, Field.name field = key := by
  rw [unknownKeys, List.filter_eq_nil_iff]
  refine forall₂_congr fun key _ => ?_
  rw [← isRecognized_iff]
  simp

/-! ## Entries of a mapping -/

namespace Mapping

/-- Every entry is one that the field of its key admits. -/
def IsTyped (m : Mapping) : Prop :=
  ∀ entry ∈ m.entries, ∃ field, Field.name field = entry.1 ∧ field.Admits entry.2

/-- The mapping without its entries that are `null`. -/
def withoutNulls (m : Mapping) : Mapping where
  entries := m.entries.filter fun entry => entry.2 ≠ .null
  distinct := m.distinct.sublist (List.filter_sublist.map Prod.fst)

/-- Without its nulls a mapping holds what it held, the nulls apart. -/
theorem get?_withoutNulls_eq_some_iff {m : Mapping} {key : String} {value : Value} :
    (withoutNulls m).get? key = some value ↔ m.get? key = some value ∧ value ≠ .null := by
  rw [← OrderedMap.mem_entries_iff, ← OrderedMap.mem_entries_iff, withoutNulls, List.mem_filter,
    decide_eq_true_iff]

/-- A mapping without nulls stays as it is. -/
theorem withoutNulls_eq_self {m : Mapping} (h : ∀ key, m.get? key ≠ some .null) :
    withoutNulls m = m := by
  apply OrderedMap.ext_entries
  rw [withoutNulls, List.filter_eq_self]
  intro entry hentry
  rw [decide_eq_true_iff]
  intro hnull
  exact h entry.1 (OrderedMap.mem_entries_iff.mp (hnull ▸ hentry))

end Mapping

namespace TypedSchema

/-! ## Field access -/

/-- A field that is present has a value of its type. -/
theorem accepts_of_get? {schema : TypedSchema} {field : Field} {value : Value}
    (h : schema.get? field = some value) : field.type.accepts value = true := by
  cases field <;>
  · obtain ⟨content, -, rfl⟩ := Option.map_eq_some_iff.mp h
    rfl

/-- A typed schema is what it holds in its fields. -/
theorem eq_of_get?_eq {schema other : TypedSchema}
    (h : ∀ field, schema.get? field = other.get? field) : schema = other := by
  -- a text or a mapping can be told from the value that it becomes
  have htext {a b : Option String} (hab : a.map Value.string = b.map Value.string) : a = b :=
    Option.map_injective (fun _ _ heq => Value.string.inj heq) hab
  have hmapping {a b : Option (List (String × Value))}
      (hab : a.map Value.object = b.map Value.object) : a = b :=
    Option.map_injective (fun _ _ heq => Value.object.inj heq) hab
  obtain ⟨_, _, _, _, _, _, _, _⟩ := schema
  obtain ⟨_, _, _, _, _, _, _, _⟩ := other
  obtain rfl := htext (h .format)
  obtain rfl := htext (h .version)
  obtain rfl := htext (h .description)
  obtain rfl := hmapping (h .indexes)
  obtain rfl := hmapping (h .params)
  obtain rfl := hmapping (h .queries)
  obtain rfl := hmapping (h .process)
  obtain rfl := hmapping (h .models)
  rfl

@[simp] theorem get?_empty (field : Field) : empty.get? field = none := by
  cases field <;> rfl

/-- Field by field the overlay comes first, and the base stands in for what it lacks. -/
theorem get?_merge (base overlay : TypedSchema) (field : Field) :
    (merge base overlay).get? field = (overlay.get? field).or (base.get? field) := by
  cases field <;> exact Option.map_or

/-- Setting a field to a value of its type succeeds and changes no other field. -/
theorem exists_set_of_accepts (schema : TypedSchema) {field : Field} {value : Value}
    (h : field.type.accepts value = true) :
    ∃ updated, schema.set field value = .ok updated ∧
      ∀ other, updated.get? other = if other = field then some value else schema.get? other := by
  cases field <;> cases value <;> first
    | (cases h; done)
    | exact ⟨_, rfl, fun other => by cases other <;> rfl⟩

/-- A value that a field does not accept is reported with the type that was asked for. -/
theorem set_of_not_accepts (schema : TypedSchema) {field : Field} {value : Value}
    (h : field.type.accepts value = false) :
    schema.set field value = .error (.wrongType value field.type) := by
  cases field <;> cases value <;> first | rfl | cases h

/-! ## Reading -/

/-- A null leaves its field as it is. -/
theorem readEntry_null (schema : TypedSchema) (field : Field) :
    schema.readEntry (field.name, .null) = .ok schema := by
  rw [readEntry, Field.ofName?_name]

theorem readEntry_of_ne_null (schema : TypedSchema) (field : Field) {value : Value}
    (h : value ≠ .null) : schema.readEntry (field.name, value) = schema.set field value := by
  rw [readEntry, Field.ofName?_name]
  cases value <;> first | rfl | exact absurd rfl h

/-- Reading an entry that its field admits takes it over unless it is `null`. -/
theorem exists_readEntry_of_admits (schema : TypedSchema) {field : Field} {value : Value}
    (h : field.Admits value) :
    ∃ updated, schema.readEntry (field.name, value) = .ok updated ∧
      ∀ other, updated.get? other
        = if other = field ∧ value ≠ .null then some value else schema.get? other := by
  rcases h with rfl | haccepts
  · exact ⟨schema, readEntry_null schema field, fun other => by simp⟩
  · have hne := Field.ne_null_of_accepts haccepts
    obtain ⟨updated, hset, hget⟩ := exists_set_of_accepts schema haccepts
    refine ⟨updated, ?_, fun other => ?_⟩
    · rw [readEntry_of_ne_null schema field hne, hset]
    · rw [hget]
      simp [hne]

/-- An entry that is read holds null or a value of its field's type. -/
theorem admits_of_readEntry {schema updated : TypedSchema} {field : Field} {value : Value}
    (h : schema.readEntry (field.name, value) = .ok updated) : field.Admits value := by
  by_cases hnull : value = .null
  · exact Or.inl hnull
  · right
    rw [readEntry_of_ne_null schema field hnull] at h
    rw [← Bool.not_eq_false]
    intro hrefused
    rw [set_of_not_accepts schema hrefused] at h
    cases h

/-- Reading entries that their fields admit takes over all of them that are not `null`. -/
theorem exists_foldlM_readEntry (schema : TypedSchema) {entries : List (String × Value)}
    (hnd : (entries.map Prod.fst).Nodup)
    (h : ∀ entry ∈ entries, ∃ field, Field.name field = entry.1 ∧ field.Admits entry.2) :
    ∃ result, entries.foldlM readEntry schema = .ok result ∧
      ∀ field, result.get? field
        = ((entries.filter fun entry => entry.2 ≠ .null).lookup field.name).or
            (schema.get? field) := by
  induction entries generalizing schema with
  | nil => exact ⟨schema, rfl, fun _ => rfl⟩
  | cons entry rest ih =>
    obtain ⟨key, value⟩ := entry
    obtain ⟨field, rfl, hadmits⟩ := h (key, value) List.mem_cons_self
    rw [List.map_cons, List.nodup_cons] at hnd
    obtain ⟨updated, hread, hupdated⟩ := exists_readEntry_of_admits schema hadmits
    obtain ⟨result, hresult, hget⟩ :=
      ih updated hnd.2 fun entry hentry => h entry (List.mem_cons_of_mem _ hentry)
    refine ⟨result, ?_, fun other => ?_⟩
    · rw [List.foldlM_cons, hread]
      exact hresult
    · rw [hget, hupdated, List.filter_cons]
      by_cases hnull : value = .null
      · simp [hnull]
      by_cases hother : other = field
      · -- no later entry has the key, so the field keeps the value of this one
        subst hother
        have hrest : (rest.filter fun entry => entry.2 ≠ .null).lookup other.name = none := by
          rw [OrderedMap.lookup_eq_none_iff_not_mem]
          intro hmem
          exact hnd.1 ((List.filter_sublist.map Prod.fst).subset hmem)
        rw [hrest]
        simp [hnull]
      · have hname : other.name ≠ field.name := fun heq => hother (Field.name_inj.mp heq)
        rw [if_neg (fun hand => hother hand.1)]
        simp [hnull, List.lookup_cons, beq_false_of_ne hname]

/-- If all entries are read, each of them is admitted by the field that it names. -/
theorem admits_of_foldlM_readEntry {schema result : TypedSchema}
    {entries : List (String × Value)} (h : entries.foldlM readEntry schema = .ok result) :
    ∀ entry ∈ entries, ∀ field, Field.name field = entry.1 → field.Admits entry.2 := by
  induction entries generalizing schema with
  | nil =>
    intro entry hentry
    cases hentry
  | cons first rest ih =>
    rw [List.foldlM_cons] at h
    cases hread : schema.readEntry first with
    | error fault =>
      rw [hread] at h
      cases h
    | ok updated =>
      -- reading goes on from the schema that the first entry leaves
      rw [hread] at h
      intro entry hentry field hname
      rcases List.mem_cons.mp hentry with rfl | hrest
      · have hentry : schema.readEntry (field.name, entry.2) = .ok updated := by
          rw [hname]
          exact hread
        exact admits_of_readEntry hentry
      · exact ih h entry hrest field hname

/-- A mapping whose values fit their fields is read, and each field holds the value under its name,
nulls apart. -/
theorem exists_ofMapping_of_isTyped {m : Mapping} (h : Mapping.IsTyped m) :
    ∃ schema, ofMapping m = .ok schema ∧
      ∀ field, schema.get? field = (Mapping.withoutNulls m).get? field.name := by
  -- every key is recognized, so the entries are read one by one
  have hunknown : unknownKeys m = [] := by
    rw [unknownKeys_eq_nil_iff]
    intro key hkey
    obtain ⟨entry, hentry, rfl⟩ := List.mem_map.mp hkey
    obtain ⟨field, hname, -⟩ := h entry hentry
    exact ⟨field, hname⟩
  obtain ⟨schema, hschema, hget⟩ := exists_foldlM_readEntry empty m.distinct h
  refine ⟨schema, ?_, fun field => ?_⟩
  · rw [ofMapping, hunknown]
    exact hschema
  · rw [hget, get?_empty, Option.or_none]
    rfl

/-- What can be read fits its fields. -/
theorem isTyped_of_ofMapping {m : Mapping} {schema : TypedSchema} (h : ofMapping m = .ok schema) :
    Mapping.IsTyped m := by
  intro entry hentry
  rw [ofMapping] at h
  cases hunknown : unknownKeys m with
  | cons key rest =>
    rw [hunknown] at h
    cases h
  | nil =>
    rw [hunknown] at h
    have hkey := OrderedMap.mem_keys_of_mem_entries hentry
    obtain ⟨field, hname⟩ := unknownKeys_eq_nil_iff.mp hunknown entry.1 hkey
    exact ⟨field, hname, admits_of_foldlM_readEntry h entry hentry field hname⟩

/-- Reading succeeds exactly if every key is recognized and its value is `null` or of the type of
the field. What is read are the entries that are not `null`. -/
theorem ofMapping_eq_ok_iff {m : Mapping} {schema : TypedSchema} :
    ofMapping m = .ok schema ↔
      Mapping.IsTyped m ∧
        ∀ field, schema.get? field = (Mapping.withoutNulls m).get? field.name := by
  constructor
  · intro h
    have htyped := isTyped_of_ofMapping h
    obtain ⟨read, hread, hget⟩ := exists_ofMapping_of_isTyped htyped
    rw [h] at hread
    obtain rfl := Except.ok.inj hread
    exact ⟨htyped, hget⟩
  · rintro ⟨htyped, hget⟩
    obtain ⟨read, hread, hreadGet⟩ := exists_ofMapping_of_isTyped htyped
    rw [hread, eq_of_get?_eq fun field => (hreadGet field).trans (hget field).symm]

/-! ## Failing to read -/

/-- An entry is refused if its field does not admit the value, and that is what the error says. -/
theorem readEntry_eq_error_iff {schema : TypedSchema} {field : Field} {value : Value}
    {error : SchemaError} :
    schema.readEntry (field.name, value) = .error error ↔
      ¬ field.Admits value ∧ error = .wrongType value field.type := by
  by_cases hadmits : field.Admits value
  · obtain ⟨updated, hread, -⟩ := exists_readEntry_of_admits schema hadmits
    simp [hread, hadmits]
  · obtain ⟨hnull, hrefused⟩ := not_or.mp hadmits
    have haccepts : field.type.accepts value = false := by simpa using hrefused
    rw [readEntry_of_ne_null schema field hnull, set_of_not_accepts schema haccepts,
      Except.error.injEq]
    simp [hadmits, eq_comm]

/-- Reading entries with recognized keys fails at the first one that its field does not admit. -/
theorem foldlM_readEntry_eq_error_iff (schema : TypedSchema) {entries : List (String × Value)}
    {error : SchemaError} (h : ∀ entry ∈ entries, ∃ field, Field.name field = entry.1) :
    entries.foldlM readEntry schema = .error error ↔
      ∃ before entry after, entries = before ++ entry :: after ∧
        (∃ field, Field.name field = entry.1 ∧ ¬ field.Admits entry.2 ∧
          error = .wrongType entry.2 field.type) ∧
        ∀ earlier ∈ before, ∃ field, Field.name field = earlier.1 ∧ field.Admits earlier.2 := by
  induction entries generalizing schema with
  | nil =>
    constructor
    · intro hnil
      cases hnil
    · rintro ⟨before, entry, after, heq, -⟩
      simp at heq
  | cons first rest ih =>
    obtain ⟨key, value⟩ := first
    obtain ⟨field, rfl⟩ := h (key, value) List.mem_cons_self
    have hfield (p : Field → Prop) :
        (∃ other, Field.name other = field.name ∧ p other) ↔ p field := by
      simp [Field.name_inj]
    rw [List.foldlM_cons, exists_split_cons_iff, hfield, hfield]
    cases hread : schema.readEntry (field.name, value) with
    | error fault =>
      obtain ⟨hrefused, rfl⟩ := readEntry_eq_error_iff.mp hread
      simp [bind, Except.bind, hrefused, eq_comm]
    | ok updated =>
      -- the first entry is admitted, so the rest of them decide
      have hadmits := admits_of_readEntry hread
      refine (ih updated fun entry hentry => h entry (List.mem_cons_of_mem _ hentry)).trans ?_
      simp [hadmits]

/-- Reading fails with the first key that is not recognized. If there is none, it fails with the
first value that its field does not admit. -/
theorem ofMapping_eq_error_iff {m : Mapping} {error : SchemaError} :
    ofMapping m = .error error ↔
      (∃ key rest, unknownKeys m = key :: rest ∧ error = .unknownField key) ∨
        (unknownKeys m = [] ∧
          ∃ before entry after, m.entries = before ++ entry :: after ∧
            (∃ field, Field.name field = entry.1 ∧ ¬ field.Admits entry.2 ∧
              error = .wrongType entry.2 field.type) ∧
            ∀ earlier ∈ before,
              ∃ field, Field.name field = earlier.1 ∧ field.Admits earlier.2) := by
  rw [ofMapping]
  cases hunknown : unknownKeys m with
  | cons key rest => simp [eq_comm]
  | nil =>
    have hrecognized : ∀ entry ∈ m.entries, ∃ field, Field.name field = entry.1 := by
      intro entry hentry
      have hkey := OrderedMap.mem_keys_of_mem_entries hentry
      exact unknownKeys_eq_nil_iff.mp hunknown entry.1 hkey
    dsimp only
    rw [foldlM_readEntry_eq_error_iff empty hrecognized]
    simp

/-! ## Writing -/

/-- The entries written are those of the fields that hold a value. -/
theorem mem_entries {schema : TypedSchema} {key : String} {value : Value} :
    (key, value) ∈ schema.entries ↔
      ∃ field, Field.name field = key ∧ schema.get? field = some value := by
  rw [entries, List.mem_filterMap]
  constructor
  · rintro ⟨field, -, hfield⟩
    obtain ⟨content, hcontent, heq⟩ := Option.map_eq_some_iff.mp hfield
    cases heq
    exact ⟨field, rfl, hcontent⟩
  · rintro ⟨field, rfl, hfield⟩
    exact ⟨field, Field.mem_all field, by rw [hfield]; rfl⟩

/-- They are written in the order of the fields, whatever order they were read in. -/
theorem map_fst_entries (schema : TypedSchema) :
    schema.entries.map Prod.fst
      = (Field.all.filter fun field => (schema.get? field).isSome).map Field.name := by
  have hname (field : Field) (entry : String × Value)
      (h : (schema.get? field).map (fun value => (field.name, value)) = some entry) :
      entry.1 = field.name := by
    obtain ⟨value, -, rfl⟩ := Option.map_eq_some_iff.mp h
    rfl
  rw [entries, map_filterMap_eq_map_filter hname]
  simp only [Option.isSome_map]

/-- No field is written twice. -/
theorem nodup_entries (schema : TypedSchema) : (schema.entries.map Prod.fst).Nodup := by
  rw [map_fst_entries]
  exact Field.nodup_names.sublist (List.filter_sublist.map Field.name)

/-- As the entries have different keys, the mapping keeps them all, in order. -/
theorem entries_toMapping (schema : TypedSchema) : schema.toMapping.entries = schema.entries :=
  OrderedMap.entries_ofList schema.nodup_entries

/-- The fields that are present are written in the order of their declaration. -/
theorem keys_toMapping (schema : TypedSchema) :
    schema.toMapping.keys
      = (Field.all.filter fun field => (schema.get? field).isSome).map Field.name := by
  rw [OrderedMap.keys, entries_toMapping, map_fst_entries]

/-- What is found in the mapping is what a field of that name holds. -/
theorem get?_toMapping_eq_some_iff {schema : TypedSchema} {key : String} {value : Value} :
    schema.toMapping.get? key = some value ↔
      ∃ field, Field.name field = key ∧ schema.get? field = some value := by
  rw [← OrderedMap.mem_entries_iff, entries_toMapping, mem_entries]

/-- Under the name of a field the mapping holds what the field does. -/
theorem get?_toMapping_name (schema : TypedSchema) (field : Field) :
    schema.toMapping.get? field.name = schema.get? field := by
  apply Option.ext
  intro value
  rw [get?_toMapping_eq_some_iff]
  constructor
  · rintro ⟨other, hname, hother⟩
    rw [← Field.name_inj.mp hname]
    exact hother
  · intro h
    exact ⟨field, rfl, h⟩

end TypedSchema

/-! ## What is emitted -/

namespace Composition

/-- Strict mode refuses what cannot be read as a typed schema. -/
theorem output_true_eq_error_iff {composition : Composition} {error : SchemaError} :
    composition.output true = .error error ↔
      TypedSchema.ofMapping composition.schema = .error error := by
  rw [output]
  cases TypedSchema.ofMapping composition.schema <;> simp [bind, Except.bind]

end Composition

end LayeredSchema
