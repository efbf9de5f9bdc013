import LayeredSchema.Number.Layout
import LayeredSchema.Yaml.Cursor
import LayeredSchema.Yaml.Resolution
import LayeredSchema.Yaml.Token.Basic

/-!
# Writing YAML text

Values are written in block style, without folding long lines. A string is written plainly if it
then reads as itself, as a literal block if it has several lines, and otherwise between quotes.
Sequences are not indented against the key in front of them.
-/

namespace LayeredSchema.Yaml

/-! ## Which style a string can have -/

/-- Whether a character is written as it is: the line feed, visible ASCII, and what lies beyond the
controls, except for the byte order mark and what is no character. -/
def isWritable (c : Char) : Bool :=
  let n := c.toNat
  n = 0x0A || (0x20 ≤ n && n ≤ 0x7E)
    || (0xA0 ≤ n && n ≠ 0xFEFF && n ≠ 0xFFFE && n ≠ 0xFFFF)

/-- Whether two neighbours satisfy two predicates. -/
def hasNeighbours (p q : Char → Bool) : List Char → Bool
  | a :: b :: rest => (p a && q b) || hasNeighbours p q (b :: rest)
  | _ => false

/-- Whether a character is a space. -/
def isSpace (c : Char) : Bool :=
  c = ' '

/-- Whether the first characters of a text would be read as an indicator. -/
def startsWithIndicator : List Char → Bool
  | [] => false
  | c :: rest =>
    "#,[]\x7b\x7d&*!|>'\"%@\x60".toList.contains c
      || ((c = '?' || c = ':' || c = '-') && endsWord rest)

/-- Whether a colon before a blank or a comment behind one stands in a text. -/
def containsIndicator : List Char → Bool
  | [] => false
  | [_] => false
  | a :: b :: rest =>
    (b = ':' && endsWord rest) || (b = '#' && (isBlank a || isBreak a))
      || containsIndicator (b :: rest)

/-- Whether a text starts like a document marker. -/
def startsLikeMarker (s : List Char) : Bool :=
  s.take 3 = ['-', '-', '-'] || s.take 3 = ['.', '.', '.']

/-- Whether a break or a space stands at either end of a text. -/
def hasLooseEnd (s : List Char) : Bool :=
  let loose := fun c => isSpace c || isBreak c
  (s.head?.map loose).getD false || (s.getLast?.map loose).getD false

/-- Whether a text must be escaped: it has a character that is not writable, or a space in front of
a break. -/
def needsEscapes (s : List Char) : Bool :=
  s.any (fun c => !isWritable c) || hasNeighbours isSpace isBreak s

/-- Whether a text can be written plainly. -/
def allowsPlain (s : List Char) : Bool :=
  !(needsEscapes s || s.any isBreak || hasLooseEnd s || startsLikeMarker s
    || startsWithIndicator s || containsIndicator s)

/-- Whether a text can be written between single quotes. -/
def allowsSingleQuotes (s : List Char) : Bool :=
  !(needsEscapes s || hasNeighbours isBreak isSpace s)

/-- Whether a text can be written as a literal block. -/
def allowsLiteral (s : List Char) : Bool :=
  !(needsEscapes s || s.getLast? = some ' ')

/-- Whether a text written plainly would be read as something else, or only looks like a number. -/
def isAmbiguous (s : String) : Bool :=
  isSignificant s || hasLeadingZero s.toList

/-- The style in which a string is written. -/
def styleOf (s : String) : ScalarStyle :=
  let cs := s.toList
  let quoted := if allowsSingleQuotes cs then ScalarStyle.singleQuoted else .doubleQuoted
  if cs.contains '\n' then
    if allowsLiteral cs then .literal else .doubleQuoted
  else if isAmbiguous s then quoted
  else if allowsPlain cs then .plain
  else quoted

/-! ## Scalars -/

/-- The spaces of an indentation. -/
def indentation (indent : Nat) : List Char :=
  List.replicate indent ' '

/-- The lines of a text, with the given indentation in front of every character that follows a
break, and in front of the closing quote if it does. -/
def indentLines (indent : Nat) (atBreak : Bool) (close : List Char) : List Char → List Char
  | [] => (if atBreak then indentation indent else []) ++ close
  | c :: rest =>
    if isBreak c then c :: indentLines indent true close rest
    else
      (if atBreak then indentation indent else [])
        ++ (if c = '\'' then ['\'', '\''] else [c]) ++ indentLines indent false close rest

/-- A text between single quotes, whose quotes are doubled. -/
def singleQuoted (indent : Nat) (s : List Char) : List Char :=
  '\'' :: indentLines indent false ['\''] s

/-- The escape of a character. -/
def escape (c : Char) : List Char :=
  match c with
  | '\x00' => ['\\', '0']
  | '\x07' => ['\\', 'a']
  | '\x08' => ['\\', 'b']
  | '\t' => ['\\', 't']
  | '\n' => ['\\', 'n']
  | '\x0b' => ['\\', 'v']
  | '\x0c' => ['\\', 'f']
  | '\r' => ['\\', 'r']
  | '\x1b' => ['\\', 'e']
  | '"' => ['\\', '"']
  | '\\' => ['\\', '\\']
  | '\x85' => ['\\', 'N']
  | '\u2028' => ['\\', 'L']
  | '\u2029' => ['\\', 'P']
  | c =>
    let digits := fun width => (Numeral.hexPadded width c.toNat).map Char.toUpper
    if c.toNat ≤ 0xFF then '\\' :: 'x' :: digits 2
    else if c.toNat ≤ 0xFFFF then '\\' :: 'u' :: digits 4
    else '\\' :: 'U' :: digits 8

/-- A text between double quotes. -/
def doubleQuoted (s : List Char) : List Char :=
  let written := fun c =>
    if !isWritable c || isBreak c || c = '"' || c = '\\' then escape c else [c]
  '"' :: (s.flatMap written ++ ['"'])

/-- The indicators of a literal block: the indentation if the text starts with a space or a break,
and the chomping unless the text ends in exactly one break. -/
def literalHeader (s : List Char) : List Char :=
  let starts := (s.head?.map fun c => isSpace c || isBreak c).getD false
  let chomping := match s.reverse with
    | a :: b :: _ => if !isBreak a then ['-'] else if isBreak b then ['+'] else []
    | [a] => if isBreak a then ['+'] else ['-']
    | [] => ['-']
  '|' :: ((if starts then ['2'] else []) ++ chomping)

/-- The lines of a literal block, each behind a break and with its indentation unless it is
empty. -/
def literalLines (indent : Nat) (atBreak : Bool) : List Char → List Char
  | [] => []
  | c :: rest =>
    if isBreak c then c :: literalLines indent true rest
    else (if atBreak then indentation indent else []) ++ c :: literalLines indent false rest

/-- A text as a literal block. -/
def literal (indent : Nat) (s : List Char) : List Char :=
  literalHeader s ++ '\n' :: literalLines indent true s

/-- A string in its style; further lines have the given indentation. -/
def writeString (indent : Nat) (s : String) : List Char :=
  match styleOf s with
  | .plain => s.toList
  | .singleQuoted => singleQuoted indent s.toList
  | .literal => literal indent s.toList
  | _ => doubleQuoted s.toList

/-- An integer in decimal digits. -/
def writeInt (n : Int) : List Char :=
  if n < 0 then '-' :: Nat.toDigits 10 n.natAbs else Nat.toDigits 10 n.natAbs

/-- A value that is written on its own: a scalar or an empty collection. -/
def writeScalar (indent : Nat) : Value → List Char
  | .null => "null".toList
  | .bool b => (if b then "true" else "false").toList
  | .int n => writeInt n
  | .float x => (FloatLayout.yaml.write x).toList
  | .string s => writeString indent s
  | .array _ => ['[', ']']
  | .object _ => ['\x7b', '\x7d']

/-! ## Collections -/

/-- The greatest length in bytes of a key in front of its colon on one line. -/
def greatestSimpleKey : Nat := 128

/-- Whether a key stands in front of its colon on one line. -/
def isSimpleKey (key : String) : Bool :=
  !(key.toList.any fun c => isBreak c || c = '\r' || c = '\x85')
    && key.utf8ByteSize ≤ greatestSimpleKey

/-- What ends a line: nothing if a text has ended it itself. -/
def lineEnd (text : List Char) : List Char :=
  if (text.getLast?.map isBreak).getD false then [] else ['\n']

/-- A key on lines of its own, and the colon in front of its value. -/
def writeComplexKey (indent : Nat) (key : String) : List Char :=
  let written := '?' :: ' ' :: writeString (indent + 2) key
  written ++ lineEnd written ++ indentation indent ++ [':', ' ']

mutual

/-- A value whose first line starts in column `indent`, where its further lines start too. -/
def writeAt (indent : Nat) : Value → List Char
  | .array (v :: vs) =>
    let item := '-' :: ' ' :: writeAt (indent + 2) v
    item ++ writeItems indent item vs
  | .object ((k, v) :: ms) =>
    let member := writeMember indent k v
    member ++ writeMembers indent member ms
  | v => writeScalar indent v

/-- The items behind the first one, given the text of the item before them. -/
def writeItems (indent : Nat) (previous : List Char) : List Value → List Char
  | [] => []
  | v :: vs =>
    let item := '-' :: ' ' :: writeAt (indent + 2) v
    lineEnd previous ++ indentation indent ++ item ++ writeItems indent item vs

/-- The members behind the first one, given the text of the member before them. -/
def writeMembers (indent : Nat) (previous : List Char) : List (String × Value) → List Char
  | [] => []
  | (k, v) :: ms =>
    let member := writeMember indent k v
    lineEnd previous ++ indentation indent ++ member ++ writeMembers indent member ms

/-- A member in a mapping that starts in column `indent`. A key that is not simple has lines of its
own, and its value too. -/
def writeMember (indent : Nat) (key : String) : Value → List Char
  | .array (v :: vs) =>
    if isSimpleKey key then
      let item := '-' :: ' ' :: writeAt (indent + 2) v
      writeString (indent + 2) key ++ ':' :: '\n' :: indentation indent
        ++ item ++ writeItems indent item vs
    else
      let item := '-' :: ' ' :: writeAt (indent + 4) v
      writeComplexKey indent key ++ item ++ writeItems (indent + 2) item vs
  | .object ((k, v) :: ms) =>
    let member := writeMember (indent + 2) k v
    let nested := member ++ writeMembers (indent + 2) member ms
    if isSimpleKey key then
      writeString (indent + 2) key ++ ':' :: '\n' :: indentation (indent + 2) ++ nested
    else writeComplexKey indent key ++ nested
  | v =>
    if isSimpleKey key then
      writeString (indent + 2) key ++ ':' :: ' ' :: writeScalar (indent + 2) v
    else writeComplexKey indent key ++ writeScalar (indent + 2) v

end

/-- The text of a value. The further lines of a lone scalar are indented too. -/
def text (v : Value) : String :=
  let written := match v with
    | .array (_ :: _) => writeAt 0 v
    | .object (_ :: _) => writeAt 0 v
    | v => writeScalar 2 v
  String.ofList (written ++ lineEnd written)

end LayeredSchema.Yaml
