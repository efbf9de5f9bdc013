import LayeredSchema.Schema.Loader
import LayeredSchema.Schema.TypedSchema

/-!
# The report of a check

A check lists which files the fragments come from, which keys more than one fragment defines, and
which keys are not recognized.
-/

namespace LayeredSchema

/-- What a check of the fragments finds. -/
structure CheckReport where
  found : List FoundFile
  missing : List Kind
  overlaps : List Overlap
  unknownKeys : List String
  deriving DecidableEq

namespace CheckReport

/-- Loads the fragments and inspects their composition. -/
def build (loader : Loader) (disk : Disk) : Except SchemaError CheckReport := do
  let found := Kind.all.filterMap (loader.find disk)
  let fragments ← loader.load disk
  let composed := (Composer.ofDefaults.addSet fragments).compose
  .ok
    { found, missing := fragments.missing, overlaps := composed.fragmentOverlaps
      unknownKeys := LayeredSchema.unknownKeys composed.schema }

/-- Whether nothing needs attention. -/
def isClean (report : CheckReport) : Bool :=
  report.missing.isEmpty && report.overlaps.isEmpty && report.unknownKeys.isEmpty

/-- A name in the first column of the report. -/
def padded (name : String) : String :=
  name ++ String.ofList (List.replicate (14 - name.length) ' ')

/-- The lines about the fragments. -/
def fragmentLines (report : CheckReport) : List String :=
  ("Fragments (" ++ toString report.found.length ++ " of " ++ toString Kind.all.length ++ ")")
    :: (report.found.map fun file =>
        "  " ++ padded file.kind.name ++ " " ++ file.path.text ++ " (" ++ file.tier.name ++ ")")
    ++ report.missing.map fun kind => "  " ++ padded kind.name ++ " missing"

/-- The lines about keys that more than one fragment defines. -/
def overlapLines (report : CheckReport) : List String :=
  if report.overlaps.isEmpty then []
  else
    "Overlapping keys (last writer wins)"
      :: report.overlaps.map fun overlap =>
        "  " ++ overlap.key ++ ": " ++ String.intercalate " -> " overlap.layers

/-- The line about keys that are not recognized. -/
def unknownLines (report : CheckReport) : List String :=
  if report.unknownKeys.isEmpty then []
  else ["Unrecognized keys: " ++ String.intercalate ", " report.unknownKeys]

/-- The verdict on a clean report. -/
def verdictLines (report : CheckReport) : List String :=
  if report.isClean then ["OK"] else []

/-- The report for people, line by line. -/
def renderText (report : CheckReport) : String :=
  String.join <|
    (report.fragmentLines ++ report.overlapLines ++ report.unknownLines
      ++ report.verdictLines).map (· ++ "\n")

/-- A list of texts as a value. -/
def textsValue (texts : List String) : Value :=
  .array (texts.map .string)

/-- The report as a document. -/
def toValue (report : CheckReport) : Value :=
  .object
    [("found", .array (report.found.map fun file =>
        .object [("name", .string file.kind.name), ("path", .string file.path.text),
          ("source", .string file.tier.name)])),
     ("missing", textsValue (report.missing.map Kind.name)),
     ("overlaps", .array (report.overlaps.map fun overlap =>
        .object [("key", .string overlap.key), ("layers", textsValue overlap.layers)])),
     ("unknown_keys", textsValue report.unknownKeys)]

/-- The report in a format, or for people if none is given. -/
def render (report : CheckReport) (format : Option OutputFormat) (pretty : Bool) : String :=
  match format with
  | some format => format.render report.toValue pretty
  | none => report.renderText

end CheckReport

end LayeredSchema
