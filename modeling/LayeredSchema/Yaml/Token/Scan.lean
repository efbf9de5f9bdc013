import LayeredSchema.Yaml.Token.Basic
import LayeredSchema.Yaml.Token.Block
import LayeredSchema.Yaml.Token.Plain
import LayeredSchema.Yaml.Token.Property
import LayeredSchema.Yaml.Token.Quoted

/-!
# From text to tokens

The scanner reads one token after another and makes the structure of block collections explicit.
An indentation deeper than the one around it opens a block collection, a shallower one closes it.

Whether a node is the key of a mapping shows only at the colon behind it. So the place of a node
that may be a key is remembered, one place for each level of flow collections, and the tokens that
open a key are put there when the colon comes. A key must stand on one line and reach no further
than 1024 characters.
-/

namespace LayeredSchema.Yaml

/-- The place of a node that may turn out to be a key. -/
structure KeyPlace where
  /-- Whether the node must be a key, since it stands at the indentation of a mapping. -/
  required : Bool
  /-- The number of tokens in front of the node. -/
  position : Nat
  line : Nat
  column : Nat

/-- The state of the scanner. -/
structure Scanner where
  cursor : Cursor
  /-- The columns of the block collections around, innermost first. -/
  columns : List Nat := []
  /-- The number of flow collections around. -/
  flowDepth : Nat := 0
  /-- Whether a key may start here. -/
  keyAllowed : Bool := true
  /-- The places of possible keys, one for each flow collection around and one for the block,
  innermost first. -/
  keys : List (Option KeyPlace) := [none]
  /-- The tokens, last first. -/
  reversed : List Token := []

namespace Scanner

/-! ## Tokens and keys -/

/-- Whether the scanner is inside a flow collection. -/
def inFlow (s : Scanner) : Bool :=
  s.flowDepth ≠ 0

/-- The first column that is inside the innermost block collection. -/
def limit (s : Scanner) : Nat :=
  match s.columns with
  | [] => 0
  | column :: _ => column + 1

/-- Appends a token. -/
def push (s : Scanner) (token : Token) : Scanner :=
  { s with reversed := token :: s.reversed }

/-- Puts a token behind the first `position` tokens. -/
def insertAt (s : Scanner) (position : Nat) (token : Token) : Scanner :=
  let behind := s.reversed.length - position
  { s with reversed := s.reversed.take behind ++ token :: s.reversed.drop behind }

/-- Replaces the place of a possible key at the innermost level. -/
def setKey (s : Scanner) (place : Option KeyPlace) : Scanner :=
  { s with keys := place :: s.keys.drop 1 }

/-- The place of a possible key at the innermost level. -/
def key? (s : Scanner) : Option KeyPlace :=
  s.keys.head?.join

/-- Gives up a possible key, unless it is required. -/
def dropKey (s : Scanner) : Option Scanner :=
  match s.key? with
  | some place => if place.required then none else some (s.setKey none)
  | none => some (s.setKey none)

/-- Remembers that a key may start here. -/
def saveKey (s : Scanner) : Option Scanner :=
  if s.keyAllowed then do
    let required := !s.inFlow && s.columns.head? = some s.cursor.column
    let s ← s.dropKey
    some (s.setKey (some ⟨required, s.reversed.length, s.cursor.line, s.cursor.column⟩))
  else some s

/-- The greatest distance between the start of a key and its colon. -/
def keyReach : Nat := 1024

/-- Whether a place is out of reach of the cursor. -/
def isStale (s : Scanner) (place : KeyPlace) : Bool :=
  place.line < s.cursor.line || place.column + keyReach < s.cursor.column

/-- Gives up the possible keys that are out of reach, none of which may be required. -/
def dropStaleKeys (s : Scanner) : Option Scanner :=
  let stale := fun place => s.isStale place
  if s.keys.any fun key => key.any fun place => stale place && place.required then none
  else some { s with keys := s.keys.map fun key => key.filter fun place => !stale place }

/-! ## Indentation -/

/-- Opens a block collection in a column deeper than the one around it. -/
def openBlock (s : Scanner) (column : Nat) (token : Token) (position : Nat) : Scanner :=
  if !s.inFlow && s.limit ≤ column then
    { s with columns := column :: s.columns }.insertAt position token
  else s

/-- Closes the block collections in columns that satisfy a predicate, innermost first. -/
def closeWhile (p : Nat → Bool) (s : Scanner) : Scanner :=
  let closed := s.columns.takeWhile p
  { s with
    columns := s.columns.dropWhile p
    reversed := closed.map (fun _ => Token.blockEnd) ++ s.reversed }

/-- Closes the block collections deeper than a column. -/
def closeBlocks (s : Scanner) (column : Nat) : Scanner :=
  if s.inFlow then s else s.closeWhile fun block => column < block

/-- Closes all block collections. -/
def closeAllBlocks (s : Scanner) : Scanner :=
  if s.inFlow then s else s.closeWhile fun _ => true

/-! ## Blanks between tokens -/

/-- Skips blanks, comments and line breaks. In block collections a tab is no blank where a key may
start, and a new line is such a place. A byte order mark at the start of a line is skipped as well;
it takes up a column, so what stands behind it is indented. -/
def skipToToken : Nat → Scanner → Scanner
  | 0, s => s
  | fuel + 1, s =>
    let c := s.cursor
    let c := if c.column = 0 ∧ c.rest.head? = some '\ufeff' then c.advance 1 else c
    let tabs := s.inFlow || !s.keyAllowed
    let c := (c.skipWhile fun ch => ch = ' ' || (tabs && ch = '\t')).skipComment
    match c.rest with
    | [] => { s with cursor := c }
    | ch :: _ =>
      if isBreak ch then
        skipToToken fuel { s with cursor := c.nextLine, keyAllowed := s.keyAllowed || !s.inFlow }
      else { s with cursor := c }

/-! ## Single tokens -/

/-- Moves the cursor and sets whether a key may start there. -/
def moveTo (s : Scanner) (cursor : Cursor) (keyAllowed : Bool) : Scanner :=
  { s with cursor, keyAllowed }

/-- Appends a one-character token. -/
def pushMark (s : Scanner) (token : Token) (keyAllowed : Bool) : Scanner :=
  (s.push token).moveTo (s.cursor.advance 1) keyAllowed

/-- Reads a document marker. -/
def fetchDocument (s : Scanner) (token : Token) : Option Scanner := do
  let s ← s.closeAllBlocks.dropKey
  some ((s.push token).moveTo (s.cursor.advance 3) false)

/-- Reads a directive. -/
def fetchDirective (s : Scanner) : Option Scanner := do
  let s ← s.closeAllBlocks.dropKey
  let (token, cursor) ← takeDirective s.cursor
  some ((s.push token).moveTo cursor false)

/-- Reads the start of a flow collection. -/
def fetchFlowStart (s : Scanner) (token : Token) : Option Scanner := do
  let s ← s.saveKey
  some ({ s with flowDepth := s.flowDepth + 1, keys := none :: s.keys }.pushMark token true)

/-- Reads the end of a flow collection. -/
def fetchFlowEnd (s : Scanner) (token : Token) : Option Scanner := do
  let s ← s.dropKey
  let keys := if s.inFlow then s.keys.drop 1 else s.keys
  some ({ s with flowDepth := s.flowDepth - 1, keys }.pushMark token false)

/-- Reads a comma of a flow collection. -/
def fetchFlowEntry (s : Scanner) : Option Scanner := do
  let s ← s.dropKey
  some (s.pushMark .flowEntry true)

/-- Reads the dash of a sequence. -/
def fetchBlockEntry (s : Scanner) : Option Scanner := do
  if !s.inFlow && !s.keyAllowed then none
  else
    let s ← (s.openBlock s.cursor.column .blockSequenceStart s.reversed.length).dropKey
    some (s.pushMark .blockEntry true)

/-- Reads the mark of an explicit key. -/
def fetchKey (s : Scanner) : Option Scanner := do
  if !s.inFlow && !s.keyAllowed then none
  else
    let s ← (s.openBlock s.cursor.column .blockMappingStart s.reversed.length).dropKey
    some (s.pushMark .key (!s.inFlow))

/-- Reads the colon of a value. If a possible key stands before it, the tokens that open the key
are put in front of that. -/
def fetchValue (s : Scanner) : Option Scanner :=
  match s.key? with
  | some place =>
    let s := s.insertAt place.position .key
    let s := s.openBlock place.column .blockMappingStart place.position
    some ((s.setKey none).pushMark .value false)
  | none =>
    if s.inFlow then some (s.pushMark .value false)
    else if s.keyAllowed then
      let s := s.openBlock s.cursor.column .blockMappingStart s.reversed.length
      some (s.pushMark .value true)
    else none

/-- Reads an alias or an anchor. -/
def fetchName (s : Scanner) (token : String → Token) : Option Scanner := do
  let s ← s.saveKey
  let (name, cursor) ← takeAnchorName (s.cursor.advance 1)
  some ((s.push (token name)).moveTo cursor false)

/-- Reads a tag. -/
def fetchTag (s : Scanner) : Option Scanner := do
  let s ← s.saveKey
  let (token, cursor) ← takeTag s.inFlow s.cursor
  some ((s.push token).moveTo cursor false)

/-- Reads a block scalar. -/
def fetchBlockScalar (s : Scanner) (style : ScalarStyle) : Option Scanner := do
  let s ← s.dropKey
  let (text, cursor) ← takeBlock (style = .folded) s.limit (s.cursor.advance 1)
  some ((s.push (.scalar style (String.ofList text))).moveTo cursor true)

/-- Reads a quoted scalar. -/
def fetchQuoted (s : Scanner) (style : ScalarStyle) : Option Scanner := do
  let s ← s.saveKey
  let cursor := s.cursor.advance 1
  let (text, cursor) ← takeQuoted (style = .singleQuoted) (cursor.rest.length + 1) cursor
  some ((s.push (.scalar style (String.ofList text))).moveTo cursor false)

/-- Reads a plain scalar. A key may start behind it if it ended at a line break. -/
def fetchPlain (s : Scanner) : Option Scanner := do
  let s ← s.saveKey
  let (plain, cursor) ← takePlain s.inFlow s.limit (s.cursor.rest.length + 1) [] {} s.cursor
  some ((s.push (.scalar .plain (String.ofList plain.text))).moveTo cursor plain.brokenOff)

/-! ## All tokens -/

/-- Whether a plain scalar may start with a character. -/
def startsPlain (flow : Bool) : List Char → Bool
  | [] => false
  | c :: rest =>
    let indicators := "-?:,[]\x7b\x7d#&*!|>'\"%@\x60".toList
    (!isBlank c && !isBreak c && !indicators.contains c)
      || (c = '-' && !(rest.head?.map isBlank).getD false)
      || (!flow && (c = '?' || c = ':') && !endsWord rest)

/-- Reads the token that starts at the cursor, which is not at the end of the text. -/
def fetchHere (s : Scanner) : Option Scanner :=
  let c := s.cursor
  let wordEnds := endsWord (c.rest.drop 1)
  match c.rest.head? with
  | none => none
  | some ch =>
    if c.column = 0 ∧ ch = '%' then s.fetchDirective
    else if c.atMarker '-' then s.fetchDocument .documentStart
    else if c.atMarker '.' then s.fetchDocument .documentEnd
    else if ch = '[' then s.fetchFlowStart .flowSequenceStart
    else if ch = '\x7b' then s.fetchFlowStart .flowMappingStart
    else if ch = ']' then s.fetchFlowEnd .flowSequenceEnd
    else if ch = '\x7d' then s.fetchFlowEnd .flowMappingEnd
    else if ch = ',' then s.fetchFlowEntry
    else if ch = '-' ∧ wordEnds then s.fetchBlockEntry
    else if ch = '?' ∧ (s.inFlow ∨ wordEnds) then s.fetchKey
    else if ch = ':' ∧ (s.inFlow ∨ wordEnds) then s.fetchValue
    else if ch = '*' then s.fetchName .alias
    else if ch = '&' then s.fetchName .anchor
    else if ch = '!' then s.fetchTag
    else if ch = '|' ∧ ¬ s.inFlow then s.fetchBlockScalar .literal
    else if ch = '>' ∧ ¬ s.inFlow then s.fetchBlockScalar .folded
    else if ch = '\'' then s.fetchQuoted .singleQuoted
    else if ch = '"' then s.fetchQuoted .doubleQuoted
    else if startsPlain s.inFlow c.rest then s.fetchPlain
    else none

/-- Reads tokens up to the end of the text, and closes what is open there. -/
def run : Nat → Scanner → Option Scanner
  | 0, _ => none
  | fuel + 1, s => do
    let s ← (s.skipToToken (s.cursor.rest.length + 1)).dropStaleKeys
    if s.cursor.rest = [] then s.closeAllBlocks.dropKey
    else run fuel (← (s.closeBlocks s.cursor.column).fetchHere)

end Scanner

/-- The tokens of a text. -/
def tokens (text : String) : Option (List Token) :=
  let cs := text.toList
  if cs.all isAllowed then do
    let cs := normalizeBreaks cs
    let s ← Scanner.run (cs.length + 1) { cursor := ⟨cs, 0, 0⟩ }
    some s.reversed.reverse
  else none

end LayeredSchema.Yaml
