import LayeredSchema.Json.Number
import LayeredSchema.Text.Numeral

/-!
# Reading JSON text

A reader takes characters from the front and hands back the rest. `value depth` reads a value with
at most `depth` collections inside one another; the loops over items, members and characters carry
the length of the text as their bound, which they cannot exhaust.
-/

namespace LayeredSchema.Json

/-! ## Strings -/

/-- The characters that may stand between tokens. -/
def isSpace (c : Char) : Bool :=
  c = ' ' || c = '\t' || c = '\n' || c = '\r'

/-- Skips blanks. -/
def skipSpace (cs : List Char) : List Char :=
  cs.dropWhile isSpace

/-- The character that a one-letter escape stands for. -/
def escapedLetter? : Char → Option Char
  | '"' => some '"'
  | '\\' => some '\\'
  | '/' => some '/'
  | 'b' => some '\x08'
  | 'f' => some '\x0c'
  | 'n' => some '\n'
  | 'r' => some '\r'
  | 't' => some '\t'
  | _ => none

/-- Reads what follows `\u`: a code unit, or two that form a surrogate pair. -/
def takeUnicodeEscape (cs : List Char) : Option (Char × List Char) := do
  let (unit, rest) ← Numeral.takeHex 4 cs
  if Numeral.isHighSurrogate unit then
    match rest with
    | '\\' :: 'u' :: rest =>
      let (low, rest) ← Numeral.takeHex 4 rest
      if Numeral.isLowSurrogate low then
        let c ← Numeral.scalar? (Numeral.joinSurrogates unit low)
        some (c, rest)
      else none
    | _ => none
  else
    let c ← Numeral.scalar? unit
    some (c, rest)

/-- Reads one character of a string, escaped or not; control characters must be escaped. -/
def takeCharacter : List Char → Option (Char × List Char)
  | '\\' :: 'u' :: rest => takeUnicodeEscape rest
  | '\\' :: c :: rest => (escapedLetter? c).map (·, rest)
  | '\\' :: [] => none
  | c :: rest => if c.toNat < 0x20 then none else some (c, rest)
  | [] => none

/-- Reads characters up to and including the closing quote. -/
def takeCharacters : Nat → List Char → Option (List Char × List Char)
  | 0, _ => none
  | _ + 1, '"' :: rest => some ([], rest)
  | fuel + 1, cs => do
    let (c, rest) ← takeCharacter cs
    let (more, rest) ← takeCharacters fuel rest
    some (c :: more, rest)

/-- Reads a string whose opening quote has been read. -/
def takeString (cs : List Char) : Option (String × List Char) := do
  let (chars, rest) ← takeCharacters (cs.length + 1) cs
  some (String.ofList chars, rest)

/-! ## Values -/

/-- Reads a scalar: a string, a number or one of the three words. -/
def takeScalar : List Char → Option (Value × List Char)
  | '"' :: rest => do
    let (s, rest) ← takeString rest
    some (.string s, rest)
  | 'n' :: 'u' :: 'l' :: 'l' :: rest => some (.null, rest)
  | 't' :: 'r' :: 'u' :: 'e' :: rest => some (.bool true, rest)
  | 'f' :: 'a' :: 'l' :: 's' :: 'e' :: rest => some (.bool false, rest)
  | cs => do
    let (numeral, rest) ← takeNumeral cs
    let v ← number numeral
    some (v, rest)

/-- Reads the items of an array up to and including its bracket, at least one. -/
def takeItems (item : List Char → Option (Value × List Char)) :
    Nat → List Char → Option (List Value × List Char)
  | 0, _ => none
  | fuel + 1, cs => do
    let (v, rest) ← item cs
    match skipSpace rest with
    | ',' :: rest =>
      let (more, rest) ← takeItems item fuel rest
      some (v :: more, rest)
    | ']' :: rest => some ([v], rest)
    | _ => none

/-- Reads a key and the colon behind it. -/
def takeKey (cs : List Char) : Option (String × List Char) :=
  match skipSpace cs with
  | '"' :: rest => do
    let (key, rest) ← takeString rest
    match skipSpace rest with
    | ':' :: rest => some (key, rest)
    | _ => none
  | _ => none

/-- Reads the members of an object up to and including its brace, at least one. -/
def takeMembers (item : List Char → Option (Value × List Char)) :
    Nat → List Char → Option (List (String × Value) × List Char)
  | 0, _ => none
  | fuel + 1, cs => do
    let (key, rest) ← takeKey cs
    let (v, rest) ← item rest
    match skipSpace rest with
    | ',' :: rest =>
      let (more, rest) ← takeMembers item fuel rest
      some ((key, v) :: more, rest)
    | '\x7d' :: rest => some ([(key, v)], rest)
    | _ => none

/-- Reads a value with at most `depth` collections inside one another. -/
def takeValue : Nat → List Char → Option (Value × List Char)
  | 0, cs =>
    match skipSpace cs with
    | '[' :: _ => none
    | '\x7b' :: _ => none
    | cs => takeScalar cs
  | depth + 1, cs =>
    match skipSpace cs with
    | '[' :: rest =>
      match skipSpace rest with
      | ']' :: rest => some (.array [], rest)
      | cs => do
        let (items, rest) ← takeItems (takeValue depth) (cs.length + 1) cs
        some (.array items, rest)
    | '\x7b' :: rest =>
      match skipSpace rest with
      | '\x7d' :: rest => some (.object [], rest)
      | cs => do
        let (members, rest) ← takeMembers (takeValue depth) (cs.length + 1) cs
        some (.object (insertEntries [] members), rest)
    | cs => takeScalar cs

/-- The greatest number of collections inside one another that is read. -/
def greatestDepth : Nat := 127

/-- The value of a JSON text, which holds one value and blanks around it. -/
def read (text : String) : Option Value := do
  let (v, rest) ← takeValue greatestDepth text.toList
  match skipSpace rest with
  | [] => some v
  | _ => none

end LayeredSchema.Json
