/-!
# Paths

A path is a text whose components are separated by slashes. Empty components and single dots name
nothing, so a trailing `/` or `/.` is ignored; two dots have no name of their own.
-/

namespace LayeredSchema

/-- A path as it was written. -/
structure Path where
  text : String
  deriving DecidableEq, Inhabited

namespace Path

/-- The pieces of a text between slashes, empty ones included. -/
def splitSlashes : List Char → List (List Char)
  | [] => [[]]
  | c :: cs =>
    if c = '/' then [] :: splitSlashes cs
    else match splitSlashes cs with
      | [] => [[c]]
      | piece :: pieces => (c :: piece) :: pieces

/-- The pieces of the path between slashes, empty ones included. -/
def pieces (p : Path) : List (List Char) :=
  splitSlashes p.text.toList

/-- Whether a piece stays where it is: an empty one or a single dot. -/
def isIdle (piece : List Char) : Bool :=
  piece = [] || piece = ['.']

/-- The components that name something, two dots included. -/
def components (p : Path) : List (List Char) :=
  p.pieces.filter fun piece => !isIdle piece

/-- The name of the final component, if it has one. -/
def fileName? (p : Path) : Option (List Char) :=
  match p.components.getLast? with
  | some name => if name = ['.', '.'] then none else some name
  | none => none

/-- Splits at the last dot. -/
def splitLastDot : List Char → Option (List Char × List Char)
  | [] => none
  | c :: cs =>
    match splitLastDot cs with
    | some (before, after) => some (c :: before, after)
    | none => if c = '.' then some ([], cs) else none

/-- The part of a file name before its extension; a leading dot starts no extension. -/
def stemOf (name : List Char) : List Char :=
  match splitLastDot name with
  | some ([], _) => name
  | some (before, _) => before
  | none => name

/-- The part of a file name behind its last dot; a leading dot starts no extension. -/
def extensionOf (name : List Char) : Option (List Char) :=
  match splitLastDot name with
  | some ([], _) => none
  | some (_, after) => some after
  | none => none

/-- The stem of the final component. -/
def stem? (p : Path) : Option String :=
  p.fileName?.map fun name => String.ofList (stemOf name)

/-- The extension of the final component. -/
def extension? (p : Path) : Option String :=
  (p.fileName?.bind extensionOf).map String.ofList

/-- Whether a path starts at the root. -/
def isAbsolute (p : Path) : Bool :=
  p.text.toList.head? = some '/'

/-- The path of a child of a directory. An absolute child stands for itself, and the empty
directory adds nothing. -/
def join (dir child : Path) : Path :=
  if child.isAbsolute ∨ dir.text.toList = [] then child
  else if dir.text.toList.getLast? = some '/' then ⟨dir.text ++ child.text⟩
  else ⟨dir.text ++ "/" ++ child.text⟩

end Path

end LayeredSchema
