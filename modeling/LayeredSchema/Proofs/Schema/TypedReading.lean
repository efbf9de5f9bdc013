import LayeredSchema.Proofs.Schema.RecognizedKeys
import LayeredSchema.Proofs.Schema.TypedComposition

/-!
# Which mappings are typed schemas

Reading and writing typed schemas undo each other, except that writing knows neither `null` nor any
order but that of the fields. A mapping is read exactly if all its keys are recognized and all its
values suit their keys, `exists_ofMapping_eq_ok_iff`. Otherwise the first key that is not recognized
is reported, and only where there is none the first value that does not suit,
`ofMapping_eq_error_iff_isFirst`.
-/

namespace LayeredSchema

/-! ## Fields of a key -/

theorem exists_admits_iff {key : String} {value : Value} :
    (∃ field, Field.name field = key ∧ field.Admits value) ↔
      key ∈ recognizedKeys ∧ Suits key value := by
  rw [mem_recognizedKeys_iff]
  constructor
  · rintro ⟨field, rfl, hadmits⟩
    exact ⟨⟨field, rfl⟩, suits_name_iff.mpr hadmits⟩
  · rintro ⟨⟨field, rfl⟩, hsuits⟩
    exact ⟨field, rfl, suits_name_iff.mp hsuits⟩

theorem exists_not_admits_iff {key : String} {value : Value} {error : SchemaError} :
    (∃ field, Field.name field = key ∧ ¬ field.Admits value ∧
        error = .wrongType value field.type) ↔
      key ∈ recognizedKeys ∧ ¬ Suits key value ∧ error = .wrongType value (typeAsked key) := by
  rw [mem_recognizedKeys_iff]
  constructor
  · rintro ⟨field, rfl, hrefused, rfl⟩
    rw [suits_name_iff, typeAsked_name]
    exact ⟨⟨field, rfl⟩, hrefused, rfl⟩
  · rintro ⟨⟨field, rfl⟩, hrefused, rfl⟩
    rw [suits_name_iff] at hrefused
    exact ⟨field, rfl, hrefused, by rw [typeAsked_name]⟩

namespace TypedSchema

/-! ## Reading -/

/-- A mapping is read exactly if its keys are recognized and its values suit them. -/
theorem exists_ofMapping_eq_ok_iff {m : Mapping} :
    (∃ schema, ofMapping m = .ok schema) ↔
      ∀ key value, m.get? key = some value → key ∈ recognizedKeys ∧ Suits key value := by
  have htyped : Mapping.IsTyped m ↔
      ∀ key value, m.get? key = some value → key ∈ recognizedKeys ∧ Suits key value := by
    unfold Mapping.IsTyped
    simp only [exists_admits_iff, ← OrderedMap.mem_entries_iff]
    exact ⟨fun h key value hentry => h (key, value) hentry, fun h entry hentry => h _ _ hentry⟩
  rw [← htyped]
  constructor
  · rintro ⟨schema, hschema⟩
    exact isTyped_of_ofMapping hschema
  · intro h
    obtain ⟨schema, hschema, -⟩ := exists_ofMapping_of_isTyped h
    exact ⟨schema, hschema⟩

/-- A key that is not recognized is reported before any value that does not suit its key; of each
sort, the first one is. -/
theorem ofMapping_eq_error_iff_isFirst {m : Mapping} {error : SchemaError} :
    ofMapping m = .error error ↔
      (∃ key, IsFirst (fun key => key ∉ recognizedKeys) m.keys key ∧
        error = .unknownField key) ∨
      ((∀ key ∈ m.keys, key ∈ recognizedKeys) ∧
        ∃ entry, IsFirst (fun entry => ¬ Suits entry.1 entry.2) m.entries entry ∧
          error = .wrongType entry.2 (typeAsked entry.1)) := by
  rw [ofMapping_eq_error_iff, unknownKeys_eq_nil_iff]
  simp only [exists_admits_iff, exists_not_admits_iff, ← mem_recognizedKeys_iff]
  refine or_congr ?_ (and_congr_right fun hall => ?_)
  · refine exists_congr fun key => ?_
    rw [← unknownKeys_eq_cons_iff, exists_and_right]
  · -- all keys are recognized, so only the values decide
    have hkeys : ∀ entry ∈ m.entries, entry.1 ∈ recognizedKeys := by
      intro entry hentry
      exact hall entry.1 (OrderedMap.mem_keys_of_mem_entries hentry)
    unfold IsFirst
    constructor
    · rintro ⟨before, entry, after, hentries, ⟨-, hrefused, rfl⟩, hbefore⟩
      refine ⟨entry, ⟨hrefused, before, after, hentries, ?_⟩, rfl⟩
      intro earlier hearlier
      exact not_not.mpr (hbefore earlier hearlier).2
    · rintro ⟨entry, ⟨hrefused, before, after, hentries, hbefore⟩, rfl⟩
      have hentry : entry ∈ m.entries := by simp [hentries]
      refine ⟨before, entry, after, hentries, ⟨hkeys entry hentry, hrefused, rfl⟩, ?_⟩
      intro earlier hearlier
      have hmem : earlier ∈ m.entries := by simp [hentries, hearlier]
      exact ⟨hkeys earlier hmem, not_not.mp (hbefore earlier hearlier)⟩

/-! ## Writing and reading -/

theorem represents_toMapping (schema : TypedSchema) : Represents schema schema.toMapping := by
  constructor
  · intro key hkey
    obtain ⟨value, hvalue⟩ := OrderedMap.mem_keys_iff.mp hkey
    obtain ⟨field, hname, -⟩ := get?_toMapping_eq_some_iff.mp hvalue
    exact ⟨field, hname⟩
  · intro field
    exact (get?_toMapping_name schema field).symm

/-- What is written is read again. What is read is written without its entries that are `null`, in
the order of the fields, and its values are the same. Reading succeeds exactly if all keys are
recognized and all values suit them; otherwise the first key that is not recognized is reported, or
the first value that does not suit if all keys are recognized. -/
theorem reading_inverts_writing :
    (∀ schema : TypedSchema, ofMapping schema.toMapping = .ok schema) ∧
    ∀ m : Mapping,
      ((∃ schema, ofMapping m = .ok schema) ↔
        ∀ key value, m.get? key = some value → key ∈ recognizedKeys ∧ Suits key value) ∧
      (∀ schema, ofMapping m = .ok schema →
        schema.toMapping.keys
            = recognizedKeys.filter (fun key => key ∈ (Mapping.withoutNulls m).keys) ∧
          ∀ key, schema.toMapping.get? key = (Mapping.withoutNulls m).get? key) ∧
      (∀ error, ofMapping m = .error error ↔
        (∃ key, IsFirst (fun key => key ∉ recognizedKeys) m.keys key ∧
          error = .unknownField key) ∨
        ((∀ key ∈ m.keys, key ∈ recognizedKeys) ∧
          ∃ entry, IsFirst (fun entry => ¬ Suits entry.1 entry.2) m.entries entry ∧
            error = .wrongType entry.2 (typeAsked entry.1))) := by
  refine ⟨fun schema => (represents_toMapping schema).ofMapping, fun m => ?_⟩
  refine ⟨exists_ofMapping_eq_ok_iff, fun schema hschema => ?_,
    fun error => ofMapping_eq_error_iff_isFirst⟩
  have hrepresents := represents_of_ofMapping hschema
  exact ⟨hrepresents.keys_toMapping, hrepresents.get?_toMapping⟩

end TypedSchema

end LayeredSchema
