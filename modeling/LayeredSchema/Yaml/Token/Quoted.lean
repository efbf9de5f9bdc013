import LayeredSchema.Text.Numeral
import LayeredSchema.Yaml.Cursor

/-!
# Quoted scalars

Line breaks inside quotes fold as in plain scalars. Between single quotes a doubled quote stands
for one; between double quotes a backslash starts an escape, and joins lines at the end of one.
-/

namespace LayeredSchema.Yaml

/-- The character that a one-letter escape stands for. -/
def escapedLetter? (c : Char) : Option Char :=
  match c with
  | '0' => some '\x00'
  | 'a' => some '\x07'
  | 'b' => some '\x08'
  | 't' => some '\t'
  | '\t' => some '\t'
  | 'n' => some '\n'
  | 'v' => some '\x0b'
  | 'f' => some '\x0c'
  | 'r' => some '\r'
  | 'e' => some '\x1b'
  | ' ' => some ' '
  | '"' => some '"'
  | '/' => some '/'
  | '\\' => some '\\'
  | 'N' => some '\x85'
  | '_' => some '\u00a0'
  | 'L' => some '\u2028'
  | 'P' => some '\u2029'
  | _ => none

/-- The number of digits of a numeric escape. -/
def escapeWidth? (c : Char) : Option Nat :=
  match c with
  | 'x' => some 2
  | 'u' => some 4
  | 'U' => some 8
  | _ => none

/-- Reads what follows the backslash of an escape: the character and the number of characters
that were read. -/
def takeEscape : List Char → Option (Char × Nat)
  | [] => none
  | c :: rest =>
    match escapeWidth? c with
    | some width => do
      let (n, _) ← Numeral.takeHex width rest
      let ch ← Numeral.scalar? n
      some (ch, width + 1)
    | none => (escapedLetter? c).map (·, 1)

/-- How the characters of a line in quotes end. -/
inductive LineEnd where
  /-- At a blank, a break, the closing quote or the end of the text. -/
  | stop
  /-- At a backslash that joins the line with the next one. -/
  | joined

/-- Reads characters in quotes up to a blank, a break or the closing quote. -/
def takeQuotedWord (single : Bool) : Nat → Cursor → Option (List Char × LineEnd × Cursor)
  | 0, c => some ([], .stop, c)
  | fuel + 1, c =>
    match c.rest with
    | [] => some ([], .stop, c)
    | ch :: rest =>
      if isBlank ch || isBreak ch then some ([], .stop, c)
      else if single && ch = '\'' && rest.head? = some '\'' then do
        let (more, lineEnd, c) ← takeQuotedWord single fuel (c.advance 2)
        some ('\'' :: more, lineEnd, c)
      else if ch = (if single then '\'' else '"') then some ([], .stop, c)
      else if !single && ch = '\\' && (rest.head?.map isBreak).getD false then
        some ([], .joined, (c.advance 1).nextLine)
      else if !single && ch = '\\' then do
        let (escaped, count) ← takeEscape rest
        let (more, lineEnd, c) ← takeQuotedWord single fuel (c.advance (count + 1))
        some (escaped :: more, lineEnd, c)
      else do
        let (more, lineEnd, c) ← takeQuotedWord single fuel (c.advance 1)
        some (ch :: more, lineEnd, c)

/-- Reads blanks and breaks behind a joined line, where blanks are dropped and breaks are kept. -/
def takeJoinedGap (fuel : Nat) (c : Cursor) : Option (List Char × Cursor) := do
  let c := c.skipBlanks
  let (gap, c) ← takeGap 0 fuel {} c
  some (gap.breaks, c)

/-- Reads the rest of a quoted scalar, the closing quote included. -/
def takeQuoted (single : Bool) : Nat → Cursor → Option (List Char × Cursor)
  | 0, _ => none
  | fuel + 1, c =>
    if c.atDocumentMarker ∨ c.rest = [] then none
    else do
      let (word, lineEnd, c) ← takeQuotedWord single c.rest.length c
      match lineEnd with
      | .joined =>
        -- a quote right behind the joint still closes the scalar
        if c.rest.head? = some '"' then some (word, c.advance 1)
        else
          let (gap, c) ← takeJoinedGap c.rest.length c
          let (more, c) ← takeQuoted single fuel c
          some (word ++ gap ++ more, c)
      | .stop =>
        if c.rest.head? = some (if single then '\'' else '"') then some (word, c.advance 1)
        else
          let (gap, c) ← takeGap 0 c.rest.length {} c
          let (more, c) ← takeQuoted single fuel c
          some (word ++ gap.folded ++ more, c)

end LayeredSchema.Yaml
