import LayeredSchema.Schema.Loader
import LayeredSchema.Text.Quoted

/-!
# The log

What a run does is logged line by line: a level, a message and named fields. The lines of loading
and composing follow the order of the work, up to the first failure.
-/

namespace LayeredSchema

/-- How much a line of the log matters. -/
inductive LogLevel where
  | debug
  | info
  | warn
  | error
  deriving DecidableEq

/-- The name of a level. -/
def LogLevel.name : LogLevel → String
  | debug => "DEBUG"
  | info => "INFO"
  | warn => "WARN"
  | error => "ERROR"

/-- A line of the log; the values of its fields are written out. -/
structure LogLine where
  level : LogLevel
  message : String
  fields : List (String × String) := []
  deriving DecidableEq

/-- The text of a line. -/
def LogLine.text (line : LogLine) : String :=
  line.level.name ++ " " ++ line.message
    ++ String.join (line.fields.map fun field => " " ++ field.1 ++ "=" ++ field.2)

/-- Where the log goes. -/
inductive LogTarget where
  | off
  | stdout
  | stderr
  | file (path : Path)
  deriving DecidableEq

/-- The target that an option's value names: a number, a word, or else a file. -/
def LogTarget.ofText : String → LogTarget
  | "0" => off
  | "off" => off
  | "1" => stdout
  | "stdout" => stdout
  | "2" => stderr
  | "stderr" => stderr
  | path => file ⟨path⟩

/-- Texts in the form of a list. -/
def quotedList (texts : List String) : String :=
  "[" ++ String.intercalate ", " (texts.map Text.quoted) ++ "]"

/-- The line about a file that is loaded. -/
def FoundFile.logLine (file : FoundFile) : LogLine :=
  { level := .debug, message := "Loading schema fragment"
    fields :=
      [("fragment", file.kind.name), ("path", file.path.text), ("source", file.tier.name)] }

/-- The lines about the fragment of a kind. -/
def Loader.kindLog (loader : Loader) (disk : Disk) (kind : Kind) : List LogLine :=
  match loader.find disk kind with
  | some file => [file.logLine]
  | none =>
    if loader.requireAll then []
    else
      [{ level := .warn, message := "Schema fragment not found, skipping"
         fields := [("fragment", kind.name)] }]

/-- Whether the fragment of a kind can be put into a set. -/
def Loader.succeedsAt (loader : Loader) (disk : Disk) (kind : Kind) : Bool :=
  match loader.loadInto disk .empty kind with
  | .ok _ => true
  | .error _ => false

/-- The lines about the fragments of kinds, up to the first one that fails. -/
def Loader.logUntilFailure (loader : Loader) (disk : Disk) : List Kind → List LogLine
  | [] => []
  | kind :: rest =>
    loader.kindLog disk kind
      ++ if loader.succeedsAt disk kind then loader.logUntilFailure disk rest else []

/-- The line about a fragment that is merged. -/
def Fragment.mergeLogLine (fragment : Fragment) : LogLine :=
  { level := .debug, message := "Merging schema fragment"
    fields :=
      [("fragment", Text.quoted fragment.name), ("keys", toString fragment.body.size)] }

/-- The lines about a composition. -/
def Composer.log (composer : Composer) : List LogLine :=
  let overlaps := composer.compose.fragmentOverlaps
  composer.fragments.map Fragment.mergeLogLine
    ++ if overlaps.isEmpty then []
      else
        [{ level := .debug, message := "Fragments overlap; later fragments win"
           fields := [("keys", quotedList (overlaps.map Overlap.key))] }]

/-- The lines about loading fragments and composing them. -/
def Loader.log (loader : Loader) (disk : Disk) : List LogLine :=
  loader.logUntilFailure disk Kind.all
    ++ match loader.load disk with
      | .ok fragments => (Composer.ofDefaults.addSet fragments).log
      | .error _ => []

end LayeredSchema
