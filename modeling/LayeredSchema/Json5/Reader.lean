import LayeredSchema.Document.Value
import LayeredSchema.Number.Written
import LayeredSchema.Text.Identifier
import LayeredSchema.Text.Numeral

/-!
# Reading JSON5 text

JSON5 adds to JSON comments, trailing commas, unquoted keys, single quotes, more escapes and more
forms of numbers. As in the JSON reader, a reader takes characters from the front and hands back
the rest, and loops are bounded by the length of the text.
-/

namespace LayeredSchema.Json5

open WrittenNumber

/-! ## Blanks and comments -/

/-- Whether a character ends a line. -/
def isLineTerminator (c : Char) : Bool :=
  c = '\n' || c = '\r' || c = '\u2028' || c = '\u2029'

/-- Whether a character may stand between tokens: a blank, a line terminator, the byte order mark
or any space separator. -/
def isSpace (c : Char) : Bool :=
  isLineTerminator c || c = '\t' || c = '\x0b' || c = '\x0c' || c = ' ' || c = '\u00a0'
    || c = '\ufeff' || c = '\u1680' || ('\u2000' ≤ c && c ≤ '\u200a') || c = '\u202f'
    || c = '\u205f' || c = '\u3000'

/-- What follows the end of a block comment. -/
def afterBlockComment? : List Char → Option (List Char)
  | '*' :: '/' :: rest => some rest
  | _ :: rest => afterBlockComment? rest
  | [] => none

/-- Skips blanks and comments, at most `fuel` of them; an unclosed block comment stays. -/
def skipBlanks : Nat → List Char → List Char
  | 0, cs => cs
  | fuel + 1, cs =>
    match cs with
    | '/' :: '/' :: rest => skipBlanks fuel (rest.dropWhile fun c => !isLineTerminator c)
    | '/' :: '*' :: rest =>
      match afterBlockComment? rest with
      | some rest => skipBlanks fuel rest
      | none => cs
    | c :: rest => if isSpace c then skipBlanks fuel rest else cs
    | [] => []

/-- Skips all blanks and comments at the front. -/
def skip (cs : List Char) : List Char :=
  skipBlanks cs.length cs

/-! ## Strings and identifiers -/

/-- The character that an escaped character stands for, unless the escape is longer. A digit other
than zero has no meaning; a character without one of its own stands for itself. -/
def escapedCharacter? (c : Char) : Option Char :=
  match c with
  | 'b' => some '\x08'
  | 'f' => some '\x0c'
  | 'n' => some '\n'
  | 'r' => some '\r'
  | 't' => some '\t'
  | 'v' => some '\x0b'
  | '0' => some '\x00'
  | c => if c.isDigit then none else some c

/-- Skips escaped line breaks, which stand for nothing. -/
def skipContinuations : List Char → List Char
  | '\\' :: '\r' :: '\n' :: rest => skipContinuations rest
  | '\\' :: c :: rest => if isLineTerminator c then skipContinuations rest else '\\' :: c :: rest
  | cs => cs

/-- The code point that two escaped surrogates stand for. The upper half is joined bit by bit to the
lower one with its offset; a pair whose upper half has the bit of the offset stands for a code
point one plane below its own. -/
def joinEscapes (high low : Nat) : Nat :=
  ((high - 0xD800) * 0x400) ||| (low - 0xDC00 + 0x10000)

/-- Reads what follows `\u`: a code unit, or two that form a surrogate pair. Between the two,
`between` may be skipped. -/
def takeUnicodeEscape (between : List Char → List Char) (cs : List Char) :
    Option (Char × List Char) := do
  let (unit, rest) ← Numeral.takeHex 4 cs
  if Numeral.isHighSurrogate unit then
    match between rest with
    | '\\' :: 'u' :: rest =>
      let (low, rest) ← Numeral.takeHex 4 rest
      if Numeral.isLowSurrogate low then
        let c ← Numeral.scalar? (joinEscapes unit low)
        some (c, rest)
      else none
    | _ => none
  else
    let c ← Numeral.scalar? unit
    some (c, rest)

/-- Reads one character of a string, escaped or not; a line terminator must be escaped. -/
def takeCharacter : List Char → Option (Char × List Char)
  | '\\' :: 'u' :: rest => takeUnicodeEscape skipContinuations rest
  | '\\' :: 'x' :: rest => do
    let (n, rest) ← Numeral.takeHex 2 rest
    let c ← Numeral.scalar? n
    some (c, rest)
  | '\\' :: c :: rest => (escapedCharacter? c).map (·, rest)
  | '\\' :: [] => none
  | c :: rest => if isLineTerminator c then none else some (c, rest)
  | [] => none

/-- Reads characters up to and including the closing quote. -/
def takeCharacters (quote : Char) : Nat → List Char → Option (List Char × List Char)
  | 0, _ => none
  | fuel + 1, cs =>
    match skipContinuations cs with
    | [] => none
    | c :: rest =>
      if c = quote then some ([], rest)
      else do
        let (c, rest) ← takeCharacter (c :: rest)
        let (more, rest) ← takeCharacters quote fuel rest
        some (c :: more, rest)

/-- Reads a string whose opening quote has been read. -/
def takeString (quote : Char) (cs : List Char) : Option (String × List Char) := do
  let (chars, rest) ← takeCharacters quote (cs.length + 1) cs
  some (String.ofList chars, rest)

/-- Reads the characters of an identifier as far as they may stand in one; escaped characters are
always accepted. -/
def takeIdentifierPart : Nat → List Char → Option (List Char × List Char)
  | 0, cs => some ([], cs)
  | fuel + 1, cs =>
    match cs with
    | '\\' :: 'u' :: rest => do
      let (c, rest) ← takeUnicodeEscape id rest
      let (more, rest) ← takeIdentifierPart fuel rest
      some (c :: more, rest)
    | c :: rest =>
      if Text.isIdentifierPart c then do
        let (more, rest) ← takeIdentifierPart fuel rest
        some (c :: more, rest)
      else some ([], c :: rest)
    | [] => some ([], [])

/-- Reads an identifier. -/
def takeIdentifier (cs : List Char) : Option (String × List Char) := do
  let starts := match cs with
    | '\\' :: 'u' :: _ => true
    | c :: _ => Text.isIdentifierStart c
    | [] => false
  if starts then
    let (chars, rest) ← takeIdentifierPart cs.length cs
    some (String.ofList chars, rest)
  else none

/-! ## Numbers -/

/-- Reads the digits of a hexadecimal number, which has at most 32 bits. -/
def takeHexNumber (cs : List Char) : Option (Value × List Char) := do
  let n ← Numeral.value? 16 (cs.takeWhile (Numeral.isDigit 16))
  if fitsUnsigned 32 n then some (.int n, cs.dropWhile (Numeral.isDigit 16)) else none

/-- Splits an unsigned decimal numeral off the front. Digits may be missing on one side of the
point; an integral part has no leading zeros. -/
def takeNumeral (negative : Bool) (cs : List Char) : Option (WrittenNumber × List Char) := do
  let (whole, cs) := match cs with
    | '0' :: rest => (['0'], rest)
    | _ => spanDigits cs
  let (fraction, cs) := match cs with
    | '.' :: rest =>
      let (digits, rest) := spanDigits rest
      (some digits, rest)
    | _ => (none, cs)
  if whole = [] ∧ fraction.getD [] = [] then none
  else
    let (exponent, cs) ← takeExponent cs
    some (⟨negative, whole, fraction, exponent⟩, cs)

/-- The value of a decimal numeral: without point and exponent an integer of 64 bits, else the
nearest double, which must be finite. -/
def number (n : WrittenNumber) : Option Value :=
  if n.isIntegral then
    if fitsSigned 63 n.integer then some (.int n.integer) else none
  else n.nearest.map .float

/-- Reads an unsigned number. The words for infinity and for no number read as null, since
documents cannot hold these; only they tell a missing sign from a plus. -/
def takeUnsigned (sign : Option Char) (cs : List Char) : Option (Value × List Char) :=
  match cs with
  | 'I' :: 'n' :: 'f' :: 'i' :: 'n' :: 'i' :: 't' :: 'y' :: rest =>
    if sign = some '+' then none else some (.null, rest)
  | 'N' :: 'a' :: 'N' :: rest => if sign = some '+' then none else some (.null, rest)
  | '0' :: 'x' :: rest => if sign.isSome then none else takeHexNumber rest
  | '0' :: 'X' :: rest => if sign.isSome then none else takeHexNumber rest
  | cs => do
    let (numeral, rest) ← takeNumeral (sign = some '-') cs
    let v ← number numeral
    some (v, rest)

/-- Reads a number with or without a sign. -/
def takeNumber : List Char → Option (Value × List Char)
  | '+' :: rest => takeUnsigned (some '+') rest
  | '-' :: rest => takeUnsigned (some '-') rest
  | cs => takeUnsigned none cs

/-! ## Values -/

/-- Reads a value without parts. -/
def takeScalar : List Char → Option (Value × List Char)
  | '"' :: rest => do
    let (s, rest) ← takeString '"' rest
    some (.string s, rest)
  | '\'' :: rest => do
    let (s, rest) ← takeString '\'' rest
    some (.string s, rest)
  | 'n' :: 'u' :: 'l' :: 'l' :: rest => some (.null, rest)
  | 't' :: 'r' :: 'u' :: 'e' :: rest => some (.bool true, rest)
  | 'f' :: 'a' :: 'l' :: 's' :: 'e' :: rest => some (.bool false, rest)
  | cs => takeNumber cs

/-- Reads the items of an array up to and including its bracket; a comma may stand before it. -/
def takeItems (item : List Char → Option (Value × List Char)) :
    Nat → List Char → Option (List Value × List Char)
  | 0, _ => none
  | fuel + 1, cs => do
    let (v, rest) ← item cs
    match skip rest with
    | ']' :: rest => some ([v], rest)
    | ',' :: rest =>
      match skip rest with
      | ']' :: rest => some ([v], rest)
      | rest =>
        let (more, rest) ← takeItems item fuel rest
        some (v :: more, rest)
    | _ => none

/-- Reads a key and the colon behind it. -/
def takeKey (cs : List Char) : Option (String × List Char) := do
  let (key, rest) ← match skip cs with
    | '"' :: rest => takeString '"' rest
    | '\'' :: rest => takeString '\'' rest
    | cs => takeIdentifier cs
  match skip rest with
  | ':' :: rest => some (key, rest)
  | _ => none

/-- Reads the members of an object up to and including its brace; a comma may stand before it. -/
def takeMembers (item : List Char → Option (Value × List Char)) :
    Nat → List Char → Option (List (String × Value) × List Char)
  | 0, _ => none
  | fuel + 1, cs => do
    let (key, rest) ← takeKey cs
    let (v, rest) ← item rest
    match skip rest with
    | '\x7d' :: rest => some ([(key, v)], rest)
    | ',' :: rest =>
      match skip rest with
      | '\x7d' :: rest => some ([(key, v)], rest)
      | rest =>
        let (more, rest) ← takeMembers item fuel rest
        some ((key, v) :: more, rest)
    | _ => none

/-- Reads a value with at most `depth` collections inside one another. -/
def takeValue : Nat → List Char → Option (Value × List Char)
  | 0, _ => none
  | depth + 1, cs =>
    match skip cs with
    | '[' :: rest =>
      match skip rest with
      | ']' :: rest => some (.array [], rest)
      | cs => do
        let (items, rest) ← takeItems (takeValue depth) (cs.length + 1) cs
        some (.array items, rest)
    | '\x7b' :: rest =>
      match skip rest with
      | '\x7d' :: rest => some (.object [], rest)
      | cs => do
        let (members, rest) ← takeMembers (takeValue depth) (cs.length + 1) cs
        some (.object (insertEntries [] members), rest)
    | cs => takeScalar cs

/-- The value of a JSON5 text, which holds one value with blanks and comments around it. Nesting
is bounded by the length of the text alone. -/
def read (text : String) : Option Value := do
  let cs := text.toList
  let (v, rest) ← takeValue (cs.length + 1) cs
  match skip rest with
  | [] => some v
  | _ => none

end LayeredSchema.Json5
