import LayeredSchema.Yaml.Cursor

/-!
# Plain scalars

A plain scalar runs on over lines as long as they are indented, and ends at an indicator: a colon
or a comment behind a blank, a document marker, and in flow collections their punctuation too.
-/

namespace LayeredSchema.Yaml

/-- Whether a colon at the front is followed by punctuation of flow collections. -/
def colonBeforeFlow : List Char → Bool
  | ':' :: c :: _ => c = ',' || c = '?' || c = '[' || c = ']' || c = '\x7b' || c = '\x7d'
  | _ => false

/-- Whether a plain scalar ends in front of this text, other than at a blank. -/
def endsPlain (flow : Bool) : List Char → Bool
  | [] => true
  | c :: rest =>
    (c = ':' && endsWord rest)
      || (flow && (c = ',' || c = '[' || c = ']' || c = '\x7b' || c = '\x7d'))

/-- Reads the characters of a plain scalar up to a blank or to its end. -/
def takePlainWord (flow : Bool) : List Char → Option (List Char)
  | [] => some []
  | c :: rest =>
    if isBlank c || isBreak c then some []
    else if flow && colonBeforeFlow (c :: rest) then none
    else if endsPlain flow (c :: rest) then some []
    else (takePlainWord flow rest).map (c :: ·)

/-- A plain scalar that has been read: its text, and whether breaks stand behind it. -/
structure PlainText where
  text : List Char
  brokenOff : Bool

/-- Reads a plain scalar from the word in front of which the cursor stands. The gap before it
belongs to the scalar only if a word follows. In block collections the scalar ends in front of a
line that is not indented by `limit` columns. -/
def takePlain (flow : Bool) (limit : Nat) : Nat → List Char → Gap → Cursor →
    Option (PlainText × Cursor)
  | 0, text, gap, c => some (⟨text, gap.breaks ≠ []⟩, c)
  | fuel + 1, text, gap, c =>
    if c.atDocumentMarker ∨ c.rest.head? = some '#' then
      some (⟨text, gap.breaks ≠ []⟩, c)
    else do
      let word ← takePlainWord flow c.rest
      let c := c.advance word.length
      let text := if word = [] then text else text ++ gap.folded ++ word
      let pending := if word = [] then gap else {}
      match c.rest with
      | [] => some (⟨text, pending.breaks ≠ []⟩, c)
      | ch :: _ =>
        if isBlank ch || isBreak ch then
          let (next, c) ← takeGap limit c.rest.length pending c
          if ¬ flow ∧ c.column < limit then some (⟨text, next.breaks ≠ []⟩, c)
          else takePlain flow limit fuel text next c
        else some (⟨text, pending.breaks ≠ []⟩, c)

end LayeredSchema.Yaml
