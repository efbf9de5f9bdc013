import LayeredSchema.Proofs.Schema.Layering
import LayeredSchema.Proofs.Schema.TypedSchema

/-!
# Recognized keys

Of the eight recognized keys three ask for a text and five for a mapping, and each of them may be
`null`: `Suits` says so key by key, `suits_name_iff` finds it in what the fields admit. The keys of
a composition that are not recognized come from its fragments, `unknownKeys_compose`, and the first
of them is the first one of the first fragment that has one, `unknownKeys_compose_eq_cons_iff`.
-/

namespace LayeredSchema

/-! ## Keys and what they ask for -/

/-- The keys that ask for a text. -/
def textKeys : List String := ["format", "version", "description"]

/-- The keys that ask for a mapping. -/
def mappingKeys : List String := ["indexes", "params", "queries", "process", "models"]

/-- The recognized keys, in the order in which a schema is written. -/
def recognizedKeys : List String := textKeys ++ mappingKeys

/-- The type that a recognized key asks for. -/
def typeAsked (key : String) : FieldType :=
  if key ∈ textKeys then .text else .mapping

/-- A value suits a recognized key if it is `null`, or a text or a mapping as the key asks. -/
def Suits (key : String) (value : Value) : Prop :=
  value = .null ∨ (key ∈ textKeys ∧ ∃ text, value = .string text) ∨
    (key ∈ mappingKeys ∧ ∃ members, value = .object members)

/-- The names of the fields, spelled out. -/
theorem exists_name_eq_iff {key : String} :
    (∃ field, Field.name field = key) ↔
      key ∈ ["format", "version", "description", "indexes", "params", "queries", "process",
        "models"] := by
  have hnames : Field.all.map Field.name
      = ["format", "version", "description", "indexes", "params", "queries", "process",
        "models"] := rfl
  rw [← hnames, List.mem_map]
  exact ⟨fun ⟨field, h⟩ => ⟨field, Field.mem_all field, h⟩, fun ⟨field, _, h⟩ => ⟨field, h⟩⟩

theorem mem_recognizedKeys_iff {key : String} :
    key ∈ recognizedKeys ↔ ∃ field, Field.name field = key :=
  exists_name_eq_iff.symm

/-- Under the name of a field its own type is asked for. -/
theorem typeAsked_name (field : Field) : typeAsked field.name = field.type := by
  cases field <;> rfl

theorem accepts_text_iff {value : Value} :
    FieldType.text.accepts value = true ↔ ∃ text, value = .string text := by
  cases value <;> simp [FieldType.accepts]

theorem accepts_mapping_iff {value : Value} :
    FieldType.mapping.accepts value = true ↔ ∃ members, value = .object members := by
  cases value <;> simp [FieldType.accepts]

/-- What suits the key of a field is what the field admits. -/
theorem suits_name_iff {field : Field} {value : Value} :
    Suits field.name value ↔ field.Admits value := by
  rw [Suits, Field.Admits, ← accepts_text_iff, ← accepts_mapping_iff]
  refine or_congr_right ?_
  cases field <;> simp [Field.name, Field.type, textKeys, mappingKeys]

/-! ## Keys that are not recognized -/

/-- Recognized keys are those of the list. -/
theorem isRecognized_eq (key : String) : isRecognized key = decide (key ∈ recognizedKeys) := by
  rw [Bool.eq_iff_iff, isRecognized_iff, decide_eq_true_iff, mem_recognizedKeys_iff]

/-- The first unknown key is the first key that is none of the list. -/
theorem unknownKeys_eq_cons_iff {m : Mapping} {key : String} :
    (∃ rest, unknownKeys m = key :: rest) ↔
      IsFirst (fun key => key ∉ recognizedKeys) m.keys key := by
  unfold unknownKeys
  rw [isFirst_iff_filter]
  simp only [isRecognized_eq, decide_not]

/-- All keys of the defaults are recognized. -/
theorem isRecognized_of_mem_base {key : String} (h : key ∈ Defaults.base.keys) :
    isRecognized key = true := by
  have hbase : ∀ key ∈ ["version", "description", "process", "models"],
      isRecognized key = true := by decide
  exact hbase key h

/-- The keys of a composition that are not recognized come from the fragments, and stand in the
order of their first appearance there. -/
theorem unknownKeys_compose (fragments : List Fragment) :
    unknownKeys (Composition.compose Defaults.base fragments).schema
      = ((fragments.flatMap Fragment.keys).filter fun key => !isRecognized key).eraseDups := by
  have hbase : (Defaults.base.keys.filter fun key => !isRecognized key) = [] := by
    rw [List.filter_eq_nil_iff]
    intro key hkey
    simp [isRecognized_of_mem_base hkey]
  rw [unknownKeys, Composition.keys_schema_compose, List.filter_append, hbase, List.nil_append,
    OrderedMap.newKeys, filter_eraseDups, List.filter_filter]
  congr 1
  refine List.filter_congr fun key _ => ?_
  -- a key of the base is recognized, so it is left out either way
  by_cases hkey : key ∈ Defaults.base.keys
  · simp [isRecognized_of_mem_base hkey]
  · simp [hkey]

/-- A composition has unknown keys only if a fragment has one. -/
theorem unknownKeys_compose_eq_nil_iff {fragments : List Fragment} :
    unknownKeys (Composition.compose Defaults.base fragments).schema = [] ↔
      ∀ fragment ∈ fragments, ∀ key ∈ fragment.keys, ∃ field, Field.name field = key := by
  rw [unknownKeys_eq_nil_iff]
  constructor
  · intro h fragment hfragment key hkey
    apply h key
    rw [Composition.mem_keys_schema_compose]
    exact Or.inr ⟨fragment, hfragment, hkey⟩
  · intro h key hkey
    rcases (Composition.mem_keys_schema_compose _ _ _).mp hkey with hbase | ⟨fragment, hmem, hkey⟩
    · exact isRecognized_iff.mp (isRecognized_of_mem_base hbase)
    · exact h fragment hmem key hkey

end LayeredSchema
