import LayeredSchema.Schema.Composition

/-!
# Schemas with typed fields

Eight top-level keys are recognized: three texts and five mappings. A `TypedSchema` has each of
them or not; reading one from a mapping refuses other keys and values of other types, and takes
`null` for absence.
-/

namespace LayeredSchema

/-- The recognized top-level keys. -/
inductive Field where
  | format
  | version
  | description
  | indexes
  | params
  | queries
  | process
  | models
  deriving DecidableEq

namespace Field

/-- The recognized keys in the order in which a schema is written. -/
def all : List Field :=
  [format, version, description, indexes, params, queries, process, models]

/-- The key of a field. -/
def name : Field → String
  | format => "format"
  | version => "version"
  | description => "description"
  | indexes => "indexes"
  | params => "params"
  | queries => "queries"
  | process => "process"
  | models => "models"

/-- The field of a key. -/
def ofName? (key : String) : Option Field :=
  all.find? fun field => field.name = key

/-- The type of a field's values. -/
def type : Field → FieldType
  | format | version | description => .text
  | indexes | params | queries | process | models => .mapping

end Field

/-- Whether a top-level key is recognized. -/
def isRecognized (key : String) : Bool :=
  (Field.ofName? key).isSome

/-- The top-level keys of a mapping outside the recognized ones. -/
def unknownKeys (m : Mapping) : List String :=
  m.keys.filter fun key => !isRecognized key

/-- Whether a value is of a field's type. -/
def FieldType.accepts : FieldType → Value → Bool
  | text, .string _ => true
  | mapping, .object _ => true
  | _, _ => false

/-- A schema in which every recognized field is optional. -/
structure TypedSchema where
  format : Option String := none
  version : Option String := none
  description : Option String := none
  indexes : Option (List (String × Value)) := none
  params : Option (List (String × Value)) := none
  queries : Option (List (String × Value)) := none
  process : Option (List (String × Value)) := none
  models : Option (List (String × Value)) := none
  deriving DecidableEq

namespace TypedSchema

/-- The schema without fields. -/
def empty : TypedSchema := {}

/-- The base layer as a typed schema. -/
def defaults : TypedSchema :=
  { version := some Defaults.version, description := some Defaults.description
    process := some [], models := some [] }

/-- The value of a field. -/
def get? (schema : TypedSchema) : Field → Option Value
  | .format => schema.format.map .string
  | .version => schema.version.map .string
  | .description => schema.description.map .string
  | .indexes => schema.indexes.map .object
  | .params => schema.params.map .object
  | .queries => schema.queries.map .object
  | .process => schema.process.map .object
  | .models => schema.models.map .object

/-- Sets a field to a value of its type. -/
def set (schema : TypedSchema) (field : Field) (value : Value) :
    Except SchemaError TypedSchema :=
  match field, value with
  | .format, .string s => .ok { schema with format := some s }
  | .version, .string s => .ok { schema with version := some s }
  | .description, .string s => .ok { schema with description := some s }
  | .indexes, .object m => .ok { schema with indexes := some m }
  | .params, .object m => .ok { schema with params := some m }
  | .queries, .object m => .ok { schema with queries := some m }
  | .process, .object m => .ok { schema with process := some m }
  | .models, .object m => .ok { schema with models := some m }
  | field, value => .error (.wrongType value field.type)

/-- Reads one entry of a mapping; `null` leaves its field absent. -/
def readEntry (schema : TypedSchema) (entry : String × Value) :
    Except SchemaError TypedSchema :=
  match Field.ofName? entry.1, entry.2 with
  | none, _ => .error (.unknownField entry.1)
  | some _, .null => .ok schema
  | some field, value => schema.set field value

/-- The typed schema of a mapping. An unrecognized key anywhere is reported before a wrong type;
of each sort of fault, the first one in the order of the mapping. -/
def ofMapping (m : Mapping) : Except SchemaError TypedSchema :=
  match unknownKeys m with
  | key :: _ => .error (.unknownField key)
  | [] => m.entries.foldlM readEntry empty

/-- The fields that are present, in the order of declaration. -/
def entries (schema : TypedSchema) : List (String × Value) :=
  Field.all.filterMap fun field => (schema.get? field).map fun value => (field.name, value)

/-- The mapping of the fields that are present. -/
def toMapping (schema : TypedSchema) : Mapping :=
  OrderedMap.ofList schema.entries

/-- Fields of the overlay replace those of the base. -/
def merge (base overlay : TypedSchema) : TypedSchema :=
  { format := overlay.format.or base.format
    version := overlay.version.or base.version
    description := overlay.description.or base.description
    indexes := overlay.indexes.or base.indexes
    params := overlay.params.or base.params
    queries := overlay.queries.or base.queries
    process := overlay.process.or base.process
    models := overlay.models.or base.models }

/-- Merges layers over a base in order. -/
def compose (base : TypedSchema) (layers : List TypedSchema) : TypedSchema :=
  layers.foldl merge base

end TypedSchema

/-- The value to emit for a composition. In strict mode its keys and types are checked first; what
is emitted stays the same. -/
def Composition.output (composition : Composition) (strict : Bool) : Except SchemaError Value := do
  if strict then
    let _ ← TypedSchema.ofMapping composition.schema
  .ok (.ofMapping composition.schema)

end LayeredSchema
