import LayeredSchema.Schema.Composition
import LayeredSchema.Schema.Paths

/-!
# Loading fragments

For each kind the first candidate that is a regular file is used, and no other one is looked at,
whatever that file holds. Kinds are loaded in merge order, and the first one that fails decides.
-/

namespace LayeredSchema

/-- The value of a text in the format that the extension of its path names. -/
def parseFragment (path : Path) (content : String) : Except SchemaError Value :=
  let extension := path.extension?.getD ""
  match SourceFormat.ofExtension? extension with
  | none => .error (.unsupportedExtension path extension)
  | some format =>
    match format.read content with
    | some value => .ok value
    | none => .error (.malformed path)

/-- The fragment of a kind in a file. -/
def readFragment (disk : Disk) (kind : Kind) (path : Path) : Except SchemaError Fragment :=
  match disk.readText path with
  | .error fault => .error (.unreadable path fault)
  | .ok content =>
    match parseFragment path content with
    | .error error => .error error
    | .ok value =>
      match Fragment.ofValue kind.name value with
      | .error error => .error (error.inFile path)
      | .ok fragment => .ok (fragment.withSource path)

/-- Where fragments are looked for, and whether all of them must be there. -/
structure Loader where
  paths : SchemaPaths
  requireAll : Bool := false

namespace Loader

/-- The file of a kind: the first candidate that is a regular file. -/
def find (loader : Loader) (disk : Disk) (kind : Kind) : Option FoundFile :=
  (loader.paths.candidates kind).find? fun file => disk.isFile file.path

/-- The fragment of a kind, if it has a file. -/
def loadFragment (loader : Loader) (disk : Disk) (kind : Kind) :
    Except SchemaError (Option Fragment) :=
  match loader.find disk kind with
  | none => .ok none
  | some file => (readFragment disk kind file.path).map some

/-- Puts the fragment of a kind into a set, if it has a file; it must have one if all fragments are
required. -/
def loadInto (loader : Loader) (disk : Disk) (fragments : FragmentSet) (kind : Kind) :
    Except SchemaError FragmentSet := do
  match ← loader.loadFragment disk kind with
  | some fragment => .ok (fragments.set kind fragment)
  | none =>
    if loader.requireAll then .error (.fragmentNotFound kind.name (some kind.stem))
    else .ok fragments

/-- The fragments of all kinds. -/
def load (loader : Loader) (disk : Disk) : Except SchemaError FragmentSet :=
  Kind.all.foldlM (loader.loadInto disk) .empty

/-- The fragments composed over the defaults. -/
def compose (loader : Loader) (disk : Disk) : Except SchemaError Composition :=
  (loader.load disk).map fun fragments => (Composer.ofDefaults.addSet fragments).compose

end Loader

end LayeredSchema
