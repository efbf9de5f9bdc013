import LayeredSchema.Settings.Basic
import LayeredSchema.Yaml.Reader

/-!
# Configuration files

A configuration file is a YAML document with two sections. Sections and settings may be missing,
unknown ones are passed over, and none may be given twice. What a file says is read first, and the
defaults are filled in where it is silent.
-/

namespace LayeredSchema

namespace Settings

open Yaml

/-! ## Values of settings -/

/-- Refuses a node. -/
def refuse {α : Type} : NodeReader α :=
  fun _ => none

/-- The text of a scalar, whatever its tag and style. -/
def readText (table : AliasTable) (node : Node) : NodeReader String :=
  keyText table node

/-- The text of a scalar that may be null: one of the words for null, or nothing at all, unless it
is quoted or has another tag. -/
def readOptionalText (table : AliasTable) (node : Node) : NodeReader (Option String) := do
  match ← followed table node with
  | .scalar properties style text =>
    if style ≠ .plain then return some text
    else
      match properties.tag with
      | none => if text = "" ∨ isNullWord text then return none else return some text
      | some tag =>
        if tag ≠ .standard "null" then return some text
        else if isNullWord text then return none
        else refuse
  | _ => refuse

/-- A truth value, written plainly or as a literal block with its tag. -/
def readBool (table : AliasTable) (node : Node) : NodeReader Bool := do
  match ← followed table node with
  | .scalar properties style text =>
    let tagged := style = .literal ∧ properties.tag = some (.standard "bool")
    if style = .plain ∨ tagged then
      match boolWord? text with
      | some b => return b
      | none => refuse
    else refuse
  | _ => refuse

/-- The format of a name, whose case matters. -/
def formatOfExactName? (name : String) : Option OutputFormat :=
  if name = "json" then some .json else if name = "yaml" then some .yaml else none

/-- A format: its name, or a local tag of that name in front of nothing. -/
def readFormat (table : AliasTable) (node : Node) : NodeReader OutputFormat := do
  match ← followed table node with
  | .scalar properties style text =>
    let named := match properties.tag.bind Tag.localName? with
      | some name =>
        if style = .plain ∧ (text = "" ∨ isNullWord text) then formatOfExactName? name else none
      | none => formatOfExactName? text
    match named with
    | some format => return format
    | none => refuse
  | _ => refuse

/-! ## Sections -/

/-- The entries of a section; nothing at all is a section without entries. -/
def readSection (table : AliasTable) (node : Node) : NodeReader (List (Node × Node)) := do
  match ← followed table node with
  | .mapping _ entries => return entries
  | .scalar _ style text => if style = .plain ∧ text = "" then return [] else refuse
  | _ => refuse

/-- Reads the entries of a section in order. Each known key may come once. -/
def readEntries {σ : Type} (table : AliasTable) (known : List String)
    (read : σ → String → Node → NodeReader σ) :
    List String → σ → List (Node × Node) → NodeReader σ
  | _, state, [] => pure state
  | seen, state, (keyNode, node) :: rest => do
    let key ← keyText table keyNode
    if !known.contains key then readEntries table known read seen state rest
    else if seen.contains key then refuse
    else readEntries table known read (key :: seen) (← read state key node) rest

end Settings

/-- What a configuration file says, setting by setting; nothing where it is silent. -/
structure FileSettings where
  partsDir : Option Path := none
  userDir : Option Path := none
  format : Option OutputFormat := none
  pretty : Option Bool := none
  deriving DecidableEq

namespace FileSettings

open Yaml Settings

/-- The settings, with the defaults where the file is silent. -/
def filledIn (file : FileSettings) : Settings :=
  { partsDir := file.partsDir.getD SchemaPaths.defaultPartsDir, userDir := file.userDir
    format := file.format.getD .json, pretty := file.pretty.getD true }

/-- Reads a setting of the section on paths. -/
def readPathSetting (table : AliasTable) (file : FileSettings) (key : String) (node : Node) :
    NodeReader FileSettings := do
  if key = "parts_dir" then
    return { file with partsDir := some ⟨← readText table node⟩ }
  else
    return { file with userDir := (← readOptionalText table node).map Path.mk }

/-- Reads a setting of the section on output. -/
def readOutputSetting (table : AliasTable) (file : FileSettings) (key : String) (node : Node) :
    NodeReader FileSettings := do
  if key = "format" then return { file with format := some (← readFormat table node) }
  else return { file with pretty := some (← readBool table node) }

/-- Reads a section of the file. -/
def readFileSection (table : AliasTable) (file : FileSettings) (key : String) (node : Node) :
    NodeReader FileSettings := do
  let entries ← readSection table node
  if key = "paths" then
    readEntries table ["parts_dir", "user_dir"] (readPathSetting table) [] file entries
  else readEntries table ["format", "pretty"] (readOutputSetting table) [] file entries

/-- What the text of a configuration file says; an empty text says nothing. -/
def ofText (text : String) : Option FileSettings := do
  match ← readDocument text with
  | none => some {}
  | some root =>
    let table := AliasTable.ofRoot root
    let read : NodeReader FileSettings := do
      let entries ← readSection table root
      readEntries table ["paths", "output"] (readFileSection table) [] {} entries
    let (file, _) ← read 0
    some file

end FileSettings

/-! ## Loading -/

/-- Why settings could not be loaded. -/
inductive Settings.LoadError where
  | unreadable (fault : Fault)
  | malformed
  deriving DecidableEq

namespace FileSettings

/-- What a file says. -/
def load (disk : Disk) (path : Path) : Except Settings.LoadError FileSettings :=
  match disk.readText path with
  | .error fault => .error (.unreadable fault)
  | .ok text =>
    match ofText text with
    | some file => .ok file
    | none => .error .malformed

/-- What the given file says, else the default file if it is there, else nothing. -/
def loadFile (disk : Disk) (path : Option Path) : Except Settings.LoadError FileSettings :=
  match path with
  | some path => load disk path
  | none =>
    if disk.holds Settings.defaultFile then load disk Settings.defaultFile else .ok {}

end FileSettings

namespace Settings

/-- The settings in a file. -/
def load (disk : Disk) (path : Path) : Except LoadError Settings :=
  (FileSettings.load disk path).map FileSettings.filledIn

/-- The settings in the given file, else in the default file if it is there, else the defaults. -/
def loadFile (disk : Disk) (path : Option Path) : Except LoadError Settings :=
  (FileSettings.loadFile disk path).map FileSettings.filledIn

/-- The settings of a file with the overrides of the environment. -/
def loadOrDefault (disk : Disk) (environment : Environment) (path : Option Path) :
    Except LoadError Settings :=
  (loadFile disk path).map fun settings => settings.overrideBy environment.get?

end Settings

end LayeredSchema
