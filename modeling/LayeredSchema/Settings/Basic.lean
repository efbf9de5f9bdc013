import LayeredSchema.Settings.Environment
import LayeredSchema.Text.Quoted

/-!
# Settings

Where fragments live and how schemas are written. Variables of the environment override what a
configuration file says, each setting on its own.
-/

namespace LayeredSchema

/-- The settings of a run. -/
structure Settings where
  partsDir : Path := SchemaPaths.defaultPartsDir
  userDir : Option Path := none
  format : OutputFormat := .json
  pretty : Bool := true
  deriving DecidableEq

namespace Settings

/-- The configuration file that is read if it is there and no other one is given. -/
def defaultFile : Path := ⟨"device-schema.yaml"⟩

/-- A value for the output format that names none. -/
structure FormatWarning where
  value : String
  kept : OutputFormat
  deriving DecidableEq

/-- The wording of the warning. -/
def FormatWarning.message (warning : FormatWarning) : String :=
  "Ignoring " ++ Environment.formatVariable ++ "=" ++ Text.quoted warning.value
    ++ ": expected json or yaml, keeping "
    ++ match warning.kept with
      | .json => "Json"
      | .yaml => "Yaml"

/-- Applies the overrides that a look-up by variable name finds. A format that is not known is
passed over with a warning. -/
def overrideBy (settings : Settings) (lookup : String → Option String) : Settings :=
  { settings with
    partsDir := ((lookup Environment.partsDirVariable).map Path.mk).getD settings.partsDir
    userDir := ((lookup Environment.userDirVariable).map Path.mk).or settings.userDir
    format :=
      ((lookup Environment.formatVariable).bind OutputFormat.ofName?).getD settings.format }

/-- The warning that overriding gives rise to. -/
def overrideWarning? (settings : Settings) (lookup : String → Option String) :
    Option FormatWarning :=
  match lookup Environment.formatVariable with
  | none => none
  | some value =>
    match OutputFormat.ofName? value with
    | some _ => none
    | none => some ⟨value, settings.format⟩

/-- The directories to look for fragments in. Without a setting the user directory is the one that
the environment gives. -/
def schemaPaths (settings : Settings) (environment : Environment) : SchemaPaths :=
  { projectDir := some settings.partsDir
    userDir := settings.userDir.or environment.userDir? }

/-- The settings as a document, in the form of a configuration file. -/
def toValue (settings : Settings) : Value :=
  .object
    [("paths", .object
      [("parts_dir", .string settings.partsDir.text),
       ("user_dir", match settings.userDir with
        | some dir => .string dir.text
        | none => .null)]),
     ("output", .object
      [("format", .string settings.format.name), ("pretty", .bool settings.pretty)])]

end Settings

end LayeredSchema
