/-!
# Characters of YAML text and a place among them

Reading starts by refusing characters that no YAML text may hold and by writing every line break
that is not a separator of its own as a line feed. A `Cursor` is the rest of the text with the
column that it starts in.
-/

namespace LayeredSchema.Yaml

/-! ## Characters -/

/-- Whether a character may stand in a YAML text. -/
def isAllowed (c : Char) : Bool :=
  let n := c.toNat
  n = 0x09 || n = 0x0A || n = 0x0D || (0x20 ≤ n && n ≤ 0x7E) || n = 0x85
    || (0xA0 ≤ n && n ≤ 0xD7FF) || (0xE000 ≤ n && n ≤ 0xFFFD) || 0x10000 ≤ n

/-- Writes carriage returns, alone or before a line feed, and next-line characters as line feeds.
The line and paragraph separators stay, since they are kept in the text of scalars. -/
def normalizeBreaks : List Char → List Char
  | '\r' :: '\n' :: rest => '\n' :: normalizeBreaks rest
  | c :: rest => (if c = '\r' ∨ c = '\x85' then '\n' else c) :: normalizeBreaks rest
  | [] => []

/-- Whether a character ends a line, in a text with normalized breaks. -/
def isBreak (c : Char) : Bool :=
  c = '\n' || c = '\u2028' || c = '\u2029'

/-- Whether a character is a space or a tab. -/
def isBlank (c : Char) : Bool :=
  c = ' ' || c = '\t'

/-- Whether a text starts with a blank or a break, or is at its end. -/
def endsWord : List Char → Bool
  | [] => true
  | c :: _ => isBlank c || isBreak c

/-- Whether a text starts with a break or is at its end. -/
def endsLine : List Char → Bool
  | [] => true
  | c :: _ => isBreak c

/-- Whether a character may stand in the names of anchors, handles and directives. -/
def isNameChar (c : Char) : Bool :=
  c.isAlphanum || c = '_' || c = '-'

/-! ## Cursors -/

/-- The rest of a text, with the line and the column in which it starts. -/
structure Cursor where
  rest : List Char
  line : Nat
  column : Nat

namespace Cursor

/-- The cursor behind `count` characters of the same line. -/
def advance (c : Cursor) (count : Nat) : Cursor :=
  { c with rest := c.rest.drop count, column := c.column + count }

/-- The cursor behind a line break. -/
def nextLine (c : Cursor) : Cursor :=
  { rest := c.rest.drop 1, line := c.line + 1, column := 0 }

/-- The cursor behind the characters at the front that satisfy a predicate, on the same line. -/
def skipWhile (c : Cursor) (p : Char → Bool) : Cursor :=
  c.advance (c.rest.takeWhile p).length

/-- The cursor behind blanks. -/
def skipBlanks (c : Cursor) : Cursor :=
  c.skipWhile isBlank

/-- The cursor at the end of the line. -/
def skipLine (c : Cursor) : Cursor :=
  c.skipWhile fun ch => !isBreak ch

/-- The cursor behind a comment, if one starts here. -/
def skipComment (c : Cursor) : Cursor :=
  if c.rest.head? = some '#' then c.skipLine else c

/-- Whether three equal characters at the start of a line, with no word behind them, begin or end a
document. -/
def atMarker (c : Cursor) (ch : Char) : Bool :=
  c.column = 0 && c.rest.take 3 = [ch, ch, ch] && endsWord (c.rest.drop 3)

/-- Whether a document begins or ends here. -/
def atDocumentMarker (c : Cursor) : Bool :=
  c.atMarker '-' || c.atMarker '.'

end Cursor

/-! ## Blanks between words -/

/-- What stands between two words of a scalar: blanks, or breaks with their blanks dropped. -/
structure Gap where
  blanks : List Char := []
  breaks : List Char := []

/-- The text of a gap. A single line feed folds into a space, and the first of several is dropped;
a separator keeps all breaks. -/
def Gap.folded (gap : Gap) : List Char :=
  match gap.breaks with
  | [] => gap.blanks
  | ['\n'] => [' ']
  | '\n' :: more => more
  | breaks => breaks

/-- Reads blanks and breaks. Behind a break, a tab before column `limit` would count as
indentation and is refused. -/
def takeGap (limit : Nat) : Nat → Gap → Cursor → Option (Gap × Cursor)
  | 0, gap, c => some (gap, c)
  | fuel + 1, gap, c =>
    match c.rest with
    | [] => some (gap, c)
    | ch :: _ =>
      if isBlank ch then
        if gap.breaks = [] then
          takeGap limit fuel { gap with blanks := gap.blanks ++ [ch] } (c.advance 1)
        else if ch = '\t' ∧ c.column < limit then none
        else takeGap limit fuel gap (c.advance 1)
      else if isBreak ch then
        takeGap limit fuel { blanks := [], breaks := gap.breaks ++ [ch] } c.nextLine
      else some (gap, c)

end LayeredSchema.Yaml
