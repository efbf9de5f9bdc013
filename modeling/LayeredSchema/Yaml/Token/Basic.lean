/-!
# Tokens of YAML text

Tokens make the block structure of a text explicit: indentation and the absence of indicators are
turned into starts and ends of collections.
-/

namespace LayeredSchema.Yaml

/-- How a scalar is written. -/
inductive ScalarStyle where
  | plain
  | singleQuoted
  | doubleQuoted
  | literal
  | folded
  deriving DecidableEq

/-! ## Tags -/

/-- A tag or a part of one. Since its characters may be percent-encoded it is a sequence of octets,
which need not be a text. -/
structure Tag where
  octets : List UInt8
  deriving DecidableEq

namespace Tag

/-- The tag of octets, of which those behind a zero do not count. -/
def ofOctets (octets : List UInt8) : Tag :=
  ⟨octets.takeWhile (· ≠ 0)⟩

/-- The tag of a text. -/
def ofString (s : String) : Tag :=
  ⟨s.toUTF8.toList⟩

instance : Append Tag := ⟨fun a b => ⟨a.octets ++ b.octets⟩⟩

/-- The exclamation mark that local tags start with. -/
def mark : UInt8 := 0x21

/-- The tag of a single exclamation mark. -/
def loneMark : Tag := ⟨[mark]⟩

/-- The name that a tag gives if it is local to its document and a text: what stands behind its
exclamation mark, or the mark itself if it stands alone. -/
def localName? (tag : Tag) : Option String :=
  match tag.octets with
  | [] => none
  | first :: rest =>
    if first ≠ mark then none
    else String.fromUTF8? ⟨(if rest = [] then [mark] else rest).toArray⟩

/-- Whether a tag starts like a local one. -/
def startsLocally (tag : Tag) : Bool :=
  tag.octets.head? = some mark

/-- The start of the tags of the standard types. -/
def standardPrefix : Tag := ofString "tag:yaml.org,2002:"

/-- The tag of a standard type. -/
def standard (name : String) : Tag :=
  standardPrefix ++ ofString name

end Tag

/-! ## Tokens -/

/-- The tokens of a text. -/
inductive Token where
  | versionDirective (major minor : Nat)
  | tagDirective (handle : String) (uri : Tag)
  | documentStart
  | documentEnd
  | blockSequenceStart
  | blockMappingStart
  | blockEnd
  | flowSequenceStart
  | flowSequenceEnd
  | flowMappingStart
  | flowMappingEnd
  | blockEntry
  | flowEntry
  | key
  | value
  | alias (name : String)
  | anchor (name : String)
  | tag (handle : String) (suffix : Tag)
  | scalar (style : ScalarStyle) (text : String)
  deriving DecidableEq

end LayeredSchema.Yaml
