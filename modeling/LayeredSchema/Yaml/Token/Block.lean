import LayeredSchema.Yaml.Cursor

/-!
# Block scalars

A block scalar is introduced by its style, and possibly by an indentation and a way of chomping its
final breaks. Its lines are kept, or folded into paragraphs.
-/

namespace LayeredSchema.Yaml

/-- What happens to the line breaks at the end of a block scalar. -/
inductive Chomping where
  | strip
  | clip
  | keep
  deriving DecidableEq

/-- The chomping of an indicator. -/
def Chomping.ofChar? (c : Char) : Option Chomping :=
  match c with
  | '-' => some .strip
  | '+' => some .keep
  | _ => none

/-- The header of a block scalar. -/
structure BlockHeader where
  chomping : Chomping := .clip
  indentation : Option Nat := none

/-- Reads an indentation indicator, if there is one; it must not be zero. -/
def takeIndentation (c : Cursor) : Option (Option Nat × Cursor) :=
  match c.rest with
  | ch :: _ =>
    if ch = '0' then none
    else if ch.isDigit then some (some (ch.toNat - '0'.toNat), c.advance 1)
    else some (none, c)
  | [] => some (none, c)

/-- Reads a chomping indicator, if there is one. -/
def takeChomping (c : Cursor) : Option Chomping × Cursor :=
  match c.rest.head?.bind Chomping.ofChar? with
  | some chomping => (some chomping, c.advance 1)
  | none => (none, c)

/-- Reads the indicators behind the style, in either order, and the rest of the line. -/
def takeBlockHeader (c : Cursor) : Option (BlockHeader × Cursor) := do
  let (before, c) := takeChomping c
  let (indentation, c) ← takeIndentation c
  let (after, c) := if before.isNone ∧ indentation.isSome then takeChomping c else (none, c)
  let c := c.skipBlanks.skipComment
  if endsLine c.rest then
    let c := if c.rest = [] then c else c.nextLine
    some (⟨((before.or after).getD .clip), indentation⟩, c)
  else none

/-- Blank lines that have been skipped: their breaks, and the widest indentation seen. -/
structure BlankLines where
  breaks : List Char := []
  widest : Nat := 0

/-- Skips blank lines and the indentation of the first line with content. Unless the indentation is
known, all spaces belong to it. A tab in the indentation is refused. -/
def takeBlankLines (indent : Option Nat) : Nat → BlankLines → Cursor →
    Option (BlankLines × Cursor)
  | 0, lines, c => some (lines, c)
  | fuel + 1, lines, c =>
    let spaces := (c.rest.takeWhile (· = ' ')).length
    let width := match indent with
      | none => spaces
      | some n => min spaces (n - c.column)
    let c := c.advance width
    let lines := { lines with widest := max lines.widest c.column }
    let inIndent := match indent with
      | none => true
      | some n => decide (c.column < n)
    match c.rest with
    | [] => some (lines, c)
    | ch :: _ =>
      if inIndent && ch = '\t' then none
      else if isBreak ch then
        takeBlankLines indent fuel { lines with breaks := lines.breaks ++ [ch] } c.nextLine
      else some (lines, c)

/-- The lines read so far, with the break behind the last one and the blank lines behind that. -/
structure BlockText where
  text : List Char := []
  lineBreak : List Char := []
  blankLines : List Char := []
  /-- Whether the last line starts with a blank. -/
  spaced : Bool := false

/-- What joins the lines read so far with the next one. A folded line feed between two lines that
start with no blank becomes a space, or nothing if blank lines follow. -/
def BlockText.joint (folding : Bool) (block : BlockText) (spaced : Bool) : List Char :=
  if folding ∧ block.lineBreak = ['\n'] ∧ ¬ block.spaced ∧ ¬ spaced then
    if block.blankLines = [] then [' '] else block.blankLines
  else block.lineBreak ++ block.blankLines

/-- Reads the lines of a block scalar, which stand exactly at its indentation. -/
def takeBlockLines (folding : Bool) (indent : Nat) : Nat → BlockText → Cursor →
    Option (BlockText × Cursor)
  | 0, block, c => some (block, c)
  | fuel + 1, block, c =>
    match c.rest with
    | [] => some (block, c)
    | ch :: _ =>
      if c.column ≠ indent then some (block, c)
      else do
        let spaced := isBlank ch
        let line := c.rest.takeWhile fun ch => !isBreak ch
        let joint := block.joint folding spaced
        let c := c.advance line.length
        let lineBreak := c.rest.take 1
        let c := if c.rest = [] then c else c.nextLine
        let (lines, c) ← takeBlankLines (some indent) (c.rest.length + 1) {} c
        takeBlockLines folding indent fuel
          ⟨block.text ++ joint ++ line, lineBreak, lines.breaks, spaced⟩ c

/-- The text of a block scalar without the breaks that are chomped off. -/
def BlockText.chomped (block : BlockText) : Chomping → List Char
  | .strip => block.text
  | .clip => block.text ++ block.lineBreak
  | .keep => block.text ++ block.lineBreak ++ block.blankLines

/-- Reads a block scalar behind its style indicator. Its lines are indented by the given number of
columns more than the collection around it, which starts in column `parent - 1`; without a number,
by as much as the first line with content, and at least by one. -/
def takeBlock (folding : Bool) (parent : Nat) (c : Cursor) : Option (List Char × Cursor) := do
  let (header, c) ← takeBlockHeader c
  let known := header.indentation.map fun n => (parent - 1) + n
  let (lines, c) ← takeBlankLines known (c.rest.length + 1) {} c
  let indent := known.getD (max (max lines.widest parent) 1)
  let (block, c) ← takeBlockLines folding indent (c.rest.length + 1)
    { blankLines := lines.breaks } c
  some (block.chomped header.chomping, c)

end LayeredSchema.Yaml
