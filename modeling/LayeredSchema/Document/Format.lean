import LayeredSchema.Json.Reader
import LayeredSchema.Json.Writer
import LayeredSchema.Json5.Reader
import LayeredSchema.Yaml.Reader
import LayeredSchema.Yaml.Writer

/-!
# Formats of documents

Documents are read from three formats, which file extensions tell apart, and written in two.
-/

namespace LayeredSchema

/-- The formats that fragments are read from. -/
inductive SourceFormat where
  | json5
  | json
  | yaml
  deriving DecidableEq

namespace SourceFormat

/-- The extensions of fragment files, in the order in which they are looked for. -/
def extensions : List String := ["json5", "json", "yaml", "yml"]

/-- The format of an extension, whose case matters. -/
def ofExtension? : String → Option SourceFormat
  | "json5" => some json5
  | "json" => some json
  | "yaml" => some yaml
  | "yml" => some yaml
  | _ => none

/-- The value of a text in the format. -/
def read : SourceFormat → String → Option Value
  | json5, text => Json5.read text
  | json, text => Json.read text
  | yaml, text => Yaml.read text

end SourceFormat

/-- The formats that schemas are written in. -/
inductive OutputFormat where
  | json
  | yaml
  deriving DecidableEq, Inhabited

namespace OutputFormat

/-- The format of a name, whose case does not matter. -/
def ofName? (name : String) : Option OutputFormat :=
  match name.map Char.toLower with
  | "json" => some json
  | "yaml" => some yaml
  | "yml" => some yaml
  | _ => none

/-- The name of the format. -/
def name : OutputFormat → String
  | json => "json"
  | yaml => "yaml"

/-- The text of a value. JSON is written on one line or indented, YAML always as a block. -/
def render (format : OutputFormat) (value : Value) (pretty : Bool) : String :=
  match format with
  | json => Json.text (if pretty then .pretty else .compact) value ++ "\n"
  | yaml => Yaml.text value

end OutputFormat

end LayeredSchema
