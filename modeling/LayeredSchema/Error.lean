import LayeredSchema.Disk.Basic
import LayeredSchema.Document.Value
import LayeredSchema.Number.Layout
import LayeredSchema.Text.Quoted

/-!
# Errors of loading and composing

A `SchemaError` is the cause of a failure. Its `report` gives it a code, a message and, where they
help, the field concerned and details.
-/

namespace LayeredSchema

/-! ## Reports -/

/-- The classes of errors that callers tell apart. -/
inductive ErrorCode where
  | invalidFragment
  | parseError
  | unknownField
  | fragmentNotFound
  | ioError
  | internalError
  deriving DecidableEq

/-- The name of an error code. -/
def ErrorCode.name : ErrorCode → String
  | invalidFragment => "INVALID_FRAGMENT"
  | parseError => "PARSE_ERROR"
  | unknownField => "UNKNOWN_FIELD"
  | fragmentNotFound => "FRAGMENT_NOT_FOUND"
  | ioError => "IO_ERROR"
  | internalError => "INTERNAL_ERROR"

/-- An error as it is shown: code, message, and what they concern. -/
structure ErrorReport where
  code : ErrorCode
  message : String
  field : Option String := none
  details : Option String := none
  deriving DecidableEq

namespace ErrorReport

/-- A fragment whose top level is no mapping. -/
def invalidFragment (name found : String) : ErrorReport :=
  { code := .invalidFragment
    message := "Fragment " ++ name ++ " must be a mapping, found " ++ found
    field := some name }

/-- A file that does not hold a text of its format. -/
def parse (path : Path) (fault : String) : ErrorReport :=
  { code := .parseError, message := "Cannot parse " ++ path.text, details := some fault }

/-- A top-level key outside the recognized ones. -/
def unknownField (key : String) : ErrorReport :=
  { code := .unknownField
    message := "Unrecognized top-level schema key: " ++ key
    field := some key }

/-- A fragment that must be present and is not. -/
def fragmentNotFound (name : String) : ErrorReport :=
  { code := .fragmentNotFound, message := "Fragment not found: " ++ name, field := some name }

/-- A file that cannot be read. -/
def io (path : Path) (fault : String) : ErrorReport :=
  { code := .ioError, message := "Cannot read " ++ path.text, details := some fault }

/-- A failure inside the program. -/
def internal (message : String) : ErrorReport :=
  { code := .internalError, message }

/-- Names the field concerned. -/
def withField (report : ErrorReport) (field : String) : ErrorReport :=
  { report with field := some field }

/-- Adds details. -/
def withDetails (report : ErrorReport) (details : String) : ErrorReport :=
  { report with details := some details }

/-- The report as a document; what is absent is left out. -/
def toValue (report : ErrorReport) : Value :=
  .object <|
    [("code", .string report.code.name), ("message", .string report.message)]
      ++ (report.field.map fun field => ("field", Value.string field)).toList
      ++ (report.details.map fun details => ("details", Value.string details)).toList

end ErrorReport

/-! ## Causes -/

/-- The type that a recognized top-level key asks for. -/
inductive FieldType where
  | text
  | mapping
  deriving DecidableEq

/-- The type in the wording of errors. -/
def FieldType.expected : FieldType → String
  | text => "a string"
  | mapping => "a map"

/-- Why a fragment could not be loaded or a schema not be typed. -/
inductive SchemaError where
  /-- The file could not be read. -/
  | unreadable (path : Path) (fault : Fault)
  /-- The file's extension names no format. -/
  | unsupportedExtension (path : Path) (extension : String)
  /-- The file does not hold a text of its format. -/
  | malformed (path : Path)
  /-- The top level of a fragment is no mapping; a fragment from a file has a path. -/
  | notMapping (name : String) (found : Value) (path : Option Path)
  /-- A fragment is required and missing; a search has looked for files of a stem. -/
  | fragmentNotFound (name : String) (searched : Option String)
  /-- A top-level key is not recognized. -/
  | unknownField (key : String)
  /-- A recognized key has a value of another type. -/
  | wrongType (found : Value) (expected : FieldType)
  deriving DecidableEq

namespace SchemaError

/-- The error of a fragment that was read from a file. -/
def inFile (error : SchemaError) (path : Path) : SchemaError :=
  match error with
  | notMapping name found _ => notMapping name found (some path)
  | other => other

/-- A value in the wording of type errors. -/
def describe : Value → String
  | .null => "null"
  | .bool b => "boolean \x60" ++ (if b then "true" else "false") ++ "\x60"
  | .int n => "integer \x60" ++ toString n ++ "\x60"
  | .float x => "floating point \x60" ++ FloatLayout.json.write x ++ "\x60"
  | .string s => "string " ++ Text.quoted s
  | .array _ => "sequence"
  | .object _ => "map"

/-- The error as it is shown. -/
def report : SchemaError → ErrorReport
  | unreadable path fault => .io path fault.message
  | unsupportedExtension path extension =>
    .parse path ("unsupported fragment extension '" ++ extension ++ "'")
  | malformed path => .parse path "malformed text"
  | notMapping name found none => .invalidFragment name found.kindName
  | notMapping name found (some path) =>
    (ErrorReport.invalidFragment name found.kindName).withDetails path.text
  | fragmentNotFound name none => .fragmentNotFound name
  | fragmentNotFound name (some stem) =>
    (ErrorReport.fragmentNotFound name).withDetails
      ("searched for " ++ stem ++ ".\x7bjson5,json,yaml,yml\x7d")
  | unknownField key => .unknownField key
  | wrongType found expected =>
    { code := .invalidFragment
      message := "Schema field has the wrong type"
      details := some ("invalid type: " ++ describe found ++ ", expected " ++ expected.expected) }

end SchemaError

end LayeredSchema
