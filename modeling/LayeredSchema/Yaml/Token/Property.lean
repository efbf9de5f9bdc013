import LayeredSchema.Text.Numeral
import LayeredSchema.Yaml.Cursor
import LayeredSchema.Yaml.Token.Basic

/-!
# Anchors, aliases, tags and directives

The parts of a text that stand beside its values: names of nodes, tags with their handles, and the
lines in front of a document.
-/

namespace LayeredSchema.Yaml

/-! ## Anchors and aliases -/

/-- Whether the name of an anchor may end in front of this text. -/
def endsAnchor : List Char → Bool
  | [] => true
  | c :: rest =>
    endsWord (c :: rest) || c = '?' || c = ':' || c = ',' || c = ']' || c = '\x7d' || c = '%'
      || c = '@' || c = '\x60'

/-- Reads the name of an anchor or an alias behind its indicator. -/
def takeAnchorName (c : Cursor) : Option (String × Cursor) :=
  let name := c.rest.takeWhile isNameChar
  let c := c.advance name.length
  if name ≠ [] ∧ endsAnchor c.rest then some (String.ofList name, c) else none

/-! ## Tags -/

/-- Whether a character may stand in a tag. Between angle brackets, commas and square brackets may
stand too. -/
def isUriChar (verbatim : Bool) (c : Char) : Bool :=
  isNameChar c || c = ';' || c = '/' || c = '?' || c = ':' || c = '@' || c = '&' || c = '='
    || c = '+' || c = '$' || c = '.' || c = '%' || c = '!' || c = '~' || c = '*' || c = '\''
    || c = '(' || c = ')' || (verbatim && (c = ',' || c = '[' || c = ']'))

/-- Reads one percent-encoded octet. -/
def takeOctet : List Char → Option (Nat × List Char)
  | '%' :: rest => Numeral.takeHex 2 rest
  | _ => none

/-- The number of octets of a character with the given first octet. -/
def octetCount? (first : Nat) : Option Nat :=
  if first < 0x80 then some 1
  else if first / 0x20 = 6 then some 2
  else if first / 0x10 = 14 then some 3
  else if first / 0x08 = 30 then some 4
  else none

/-- Reads the octets behind the first one of a character. -/
def takeTrailingOctets : Nat → List Char → Option (List UInt8 × List Char)
  | 0, cs => some ([], cs)
  | count + 1, cs => do
    let (octet, rest) ← takeOctet cs
    if octet / 0x40 = 2 then
      let (octets, rest) ← takeTrailingOctets count rest
      some (UInt8.ofNat octet :: octets, rest)
    else none

/-- Reads one percent-encoded character: a first octet and as many trailing ones as it asks for. -/
def takeEncoded (cs : List Char) : Option (List UInt8 × List Char) := do
  let (first, rest) ← takeOctet cs
  let count ← octetCount? first
  let (octets, rest) ← takeTrailingOctets (count - 1) rest
  some (UInt8.ofNat first :: octets, rest)

/-- The octet of a character, which is ASCII. -/
def octetOf (c : Char) : UInt8 :=
  UInt8.ofNat c.toNat

/-- Reads the characters of a tag. -/
def takeUri (verbatim : Bool) : Nat → List Char → Option (List UInt8 × List Char)
  | 0, cs => some ([], cs)
  | fuel + 1, cs =>
    match cs with
    | [] => some ([], [])
    | c :: rest =>
      if ¬ isUriChar verbatim c then some ([], c :: rest)
      else do
        let (octets, rest) ←
          if c = '%' then takeEncoded (c :: rest) else some ([octetOf c], rest)
        let (more, rest) ← takeUri verbatim fuel rest
        some (octets ++ more, rest)

/-- Reads the characters of a tag from a cursor. -/
def takeUriAt (verbatim : Bool) (c : Cursor) : Option (List UInt8 × Cursor) := do
  let (uri, rest) ← takeUri verbatim c.rest.length c.rest
  some (uri, c.advance (c.rest.length - rest.length))

/-- Reads a handle as far as it goes: an exclamation mark, a name, and a second mark if it
follows. -/
def takeHandle (c : Cursor) : Option (List Char × Cursor) :=
  match c.rest with
  | '!' :: rest =>
    let name := rest.takeWhile isNameChar
    let handle := '!' :: name ++ (if (rest.drop name.length).head? = some '!' then ['!'] else [])
    some (handle, c.advance handle.length)
  | _ => none

/-- Whether a handle names a prefix: it has an exclamation mark at either end. -/
def isNamedHandle (handle : List Char) : Bool :=
  1 < handle.length && handle.getLast? = some '!'

/-- Whether a tag may end in front of this text. -/
def endsTag (flow : Bool) (cs : List Char) : Bool :=
  endsWord cs || (flow && cs.head? = some ',')

/-- Reads a tag: verbatim between angle brackets, with a handle, or local. A lone exclamation mark
is a tag without a handle. -/
def takeTag (flow : Bool) (c : Cursor) : Option (Token × Cursor) := do
  let (handle, suffix, c) ← match c.rest with
    | '!' :: '<' :: _ => do
      let (uri, c) ← takeUriAt true (c.advance 2)
      if uri = [] ∨ c.rest.head? ≠ some '>' then none
      else some ([], Tag.ofOctets uri, c.advance 1)
    | _ => do
      let (handle, c) ← takeHandle c
      let (uri, c) ← takeUriAt false c
      if isNamedHandle handle then
        if uri = [] then none else some (handle, Tag.ofOctets uri, c)
      else
        let suffix := Tag.ofOctets ((handle.drop 1).map octetOf ++ uri)
        if suffix.octets = [] then some ([], Tag.loneMark, c) else some (['!'], suffix, c)
  if endsTag flow c.rest then some (.tag (String.ofList handle) suffix, c) else none

/-! ## Directives -/

/-- Reads a number of a version, of at most nine digits. -/
def takeVersionNumber (c : Cursor) : Option (Nat × Cursor) :=
  let digits := c.rest.takeWhile Char.isDigit
  if digits = [] ∨ 9 < digits.length then none
  else some (Nat.ofDigitChars 10 digits 0, c.advance digits.length)

/-- Reads the version of a directive. -/
def takeVersion (c : Cursor) : Option (Token × Cursor) := do
  let (major, c) ← takeVersionNumber c.skipBlanks
  if c.rest.head? ≠ some '.' then none
  else
    let (minor, c) ← takeVersionNumber (c.advance 1)
    some (.versionDirective major minor, c)

/-- Reads the handle and the URI of a directive. -/
def takeTagDirective (c : Cursor) : Option (Token × Cursor) := do
  let (handle, c) ← takeHandle c.skipBlanks
  let startsBlank := (c.rest.head?.map isBlank).getD false
  if ¬ (isNamedHandle handle ∨ handle = ['!']) ∨ ¬ startsBlank then none
  else
    let (uri, c) ← takeUriAt true c.skipBlanks
    if uri = [] ∨ ¬ endsWord c.rest then none
    else some (.tagDirective (String.ofList handle) (Tag.ofOctets uri), c)

/-- Reads a directive and the rest of its line. -/
def takeDirective (c : Cursor) : Option (Token × Cursor) := do
  let c := c.advance 1
  let name := c.rest.takeWhile isNameChar
  let c := c.advance name.length
  if name = [] ∨ ¬ endsWord c.rest then none
  else
    let (token, c) ←
      if name = "YAML".toList then takeVersion c
      else if name = "TAG".toList then takeTagDirective c
      else none
    let c := c.skipBlanks.skipComment
    if endsLine c.rest then some (token, if c.rest = [] then c else c.nextLine) else none

end LayeredSchema.Yaml
