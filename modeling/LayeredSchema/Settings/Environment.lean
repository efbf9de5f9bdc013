import LayeredSchema.Schema.Paths

/-!
# Environment variables

Three variables override settings, and one names the home directory.
-/

namespace LayeredSchema

/-- The environment of a run. -/
structure Environment where
  bindings : List (String × String)
  /-- The home directory of the account, used when the environment names none. -/
  accountHome : Option Path := none

namespace Environment

/-- The variable that names the project directory. -/
def partsDirVariable : String := "DEVICE_SCHEMA_PARTS_DIR"

/-- The variable that names the user directory. -/
def userDirVariable : String := "DEVICE_SCHEMA_USER_DIR"

/-- The variable that names the output format. -/
def formatVariable : String := "DEVICE_SCHEMA_FORMAT"

/-- The value of a variable. -/
def get? (environment : Environment) (name : String) : Option String :=
  environment.bindings.lookup name

/-- The home directory: the one that the environment names unless that name is empty. -/
def home? (environment : Environment) : Option Path :=
  match environment.get? "HOME" with
  | some home => if home = "" then environment.accountHome else some ⟨home⟩
  | none => environment.accountHome

/-- The user directory unless a setting names another one. -/
def userDir? (environment : Environment) : Option Path :=
  match environment.get? userDirVariable with
  | some dir => some ⟨dir⟩
  | none => environment.home?.map fun home => (home.join ⟨".device-schema"⟩).join ⟨"parts"⟩

/-- The directories when nothing but the environment is known. -/
def schemaPaths (environment : Environment) : SchemaPaths :=
  { projectDir := some <|
      match environment.get? partsDirVariable with
      | some dir => ⟨dir⟩
      | none => SchemaPaths.defaultPartsDir
    userDir := environment.userDir? }

end Environment

end LayeredSchema
