import LayeredSchema.Disk.Path

/-!
# The state of a file system

A `Disk` holds files and directories by location, a list of names from the root. A path is looked
up piece by piece from the root or from the working directory: every piece but the last must stand
in a directory, and a trailing slash asks for one.
-/

namespace LayeredSchema

/-- What can go wrong with a file. -/
inductive Fault where
  | notFound
  | exists
  | notADirectory
  | isADirectory
  | permissionDenied
  | invalidText
  deriving DecidableEq

namespace Fault

/-- The wording of a fault. -/
def message : Fault → String
  | notFound => "No such file or directory (os error 2)"
  | .exists => "File exists (os error 17)"
  | notADirectory => "Not a directory (os error 20)"
  | isADirectory => "Is a directory (os error 21)"
  | permissionDenied => "Permission denied (os error 13)"
  | invalidText => "stream did not contain valid UTF-8"

end Fault

/-- A place on the disk, as names from the root down. -/
abbrev Location := List (List Char)

/-- What stands at a location. -/
inductive DiskEntry where
  | file (content : ByteArray)
  /-- A regular file that may not be opened. -/
  | locked
  | directory

/-- The files and directories of a disk, and the directory that relative paths start from. -/
structure Disk where
  workingDirectory : Location
  nodes : List (Location × DiskEntry)

namespace Disk

/-! ## Locations -/

/-- What stands at a location; the root is a directory. -/
def node? (disk : Disk) (location : Location) : Option DiskEntry :=
  if location = [] then some .directory else disk.nodes.lookup location

/-- The location that one piece of a path leads to. -/
def step (here : Location) (piece : List Char) : Location :=
  if Path.isIdle piece then here
  else if piece = ['.', '.'] then here.dropLast
  else here ++ [piece]

/-- Follows the pieces of a path; each must be looked up in a directory. -/
def walk (disk : Disk) (here : Location) : List (List Char) → Except Fault Location
  | [] => .ok here
  | piece :: rest =>
    match disk.node? here with
    | none => .error .notFound
    | some (.file _) | some .locked => .error .notADirectory
    | some .directory => disk.walk (step here piece) rest

/-- Where the pieces of a path start. -/
def start (disk : Disk) (path : Path) : Location :=
  if path.isAbsolute then [] else disk.workingDirectory

/-- The location that a path leads to, whether something stands there or not. -/
def locate (disk : Disk) (path : Path) : Except Fault Location :=
  if path.text.toList = [] then .error .notFound
  else disk.walk (disk.start path) path.pieces

/-- What a path names. -/
def find (disk : Disk) (path : Path) : Except Fault DiskEntry := do
  let location ← disk.locate path
  match disk.node? location with
  | some node => .ok node
  | none => .error .notFound

/-! ## Questions -/

/-- Whether a path names anything. -/
def holds (disk : Disk) (path : Path) : Bool :=
  match disk.find path with
  | .ok _ => true
  | .error _ => false

/-- Whether a path names a regular file, which one may or may not be able to open. -/
def isFile (disk : Disk) (path : Path) : Bool :=
  match disk.find path with
  | .ok (.file _) | .ok .locked => true
  | _ => false

/-- Whether a path names a directory. -/
def isDirectory (disk : Disk) (path : Path) : Bool :=
  match disk.find path with
  | .ok .directory => true
  | _ => false

/-- The text of a file. -/
def readText (disk : Disk) (path : Path) : Except Fault String := do
  match ← disk.find path with
  | .directory => .error .isADirectory
  | .locked => .error .permissionDenied
  | .file content =>
    match String.fromUTF8? content with
    | some text => .ok text
    | none => .error .invalidText

/-! ## Changes -/

/-- Puts a node at a location, in place of what stood there. -/
def set (disk : Disk) (location : Location) (node : DiskEntry) : Disk :=
  { disk with nodes := (location, node) :: disk.nodes.filter fun entry => entry.1 ≠ location }

/-- Writes a file into a directory that exists. -/
def write (disk : Disk) (path : Path) (content : ByteArray) : Except Fault Disk := do
  let location ← disk.locate path
  match disk.node? location with
  | some .directory => .error .isADirectory
  | some .locked => .error .permissionDenied
  | some (.file _) | none => .ok (disk.set location (.file content))

/-- Makes the directories along a path that are missing. -/
def makeAlong (disk : Disk) (here : Location) : List (List Char) → Except Fault Disk
  | [] => .ok disk
  | piece :: rest =>
    let next := step here piece
    match disk.node? next with
    | none => (disk.set next .directory).makeAlong next rest
    | some .directory => disk.makeAlong next rest
    | some (.file _) | some .locked => .error (if rest = [] then .exists else .notADirectory)

/-- Makes a directory and those above it, as far as they are missing. -/
def makeDirectories (disk : Disk) (path : Path) : Except Fault Disk :=
  disk.makeAlong (disk.start path) path.pieces

/-- Writes a file, making the directories above it. -/
def put (disk : Disk) (path : Path) (content : ByteArray) : Except Fault Disk := do
  let disk ← disk.makeAlong (disk.start path) path.pieces.dropLast
  disk.write path content

/-- Removes what a path names, a directory with all it holds. -/
def remove (disk : Disk) (path : Path) : Except Fault Disk := do
  let location ← disk.locate path
  match disk.node? location with
  | none => .error .notFound
  | some _ =>
    .ok { disk with nodes := disk.nodes.filter fun entry => !location.isPrefixOf entry.1 }

/-- A disk with the given directories, in an empty working directory. -/
def ofDirectories (workingDirectory : Location) (directories : List Location) : Disk :=
  ⟨workingDirectory, directories.map (·, .directory)⟩

end Disk

end LayeredSchema
