import LayeredSchema.Proofs.Yaml.ScalarTokens
import Mathlib.Data.String.Basic

/-!
# Marks and keys of block collections

An entry opens the block that it stands in unless that is open, `Scanner.Opens`. The dash of an item
leads to the item, `Scanner.leads_entryMark`. A key on one line and its colon lead to the value, on
the same line or below, `Scanner.leads_simpleKey_here` and `Scanner.leads_simpleKey_below`, since
what is written for a short key stays within the reach of a key, `length_simpleKey_le`. Any other
key has a mark, `Scanner.leads_complexKey`.
-/

namespace LayeredSchema.Yaml

/-! ## The text of a key on one line -/

/-- A string without a line feed is never written as a literal scalar. -/
theorem styleOf_ne_literal {s : String} (h : '\n' ∉ s.toList) : styleOf s ≠ .literal := by
  have hline : s.toList.contains '\n' = false := by simpa using h
  have hquoted : (if allowsSingleQuotes s.toList then ScalarStyle.singleQuoted else .doubleQuoted)
      ≠ .literal := by
    split <;> decide
  unfold styleOf
  dsimp only
  rw [hline, if_neg Bool.false_ne_true]
  split
  · exact hquoted
  · split
    · decide
    · exact hquoted

/-- Without a break a text between single quotes is its characters between quotes. -/
theorem singleQuoted_of_no_break {s : List Char} (h : ∀ ch ∈ s, isBreak ch = false)
    (indent : Nat) : singleQuoted indent s = '\'' :: (s.flatMap inSingleQuotes ++ ['\'']) := by
  have hlines := indentLines_word h indent ['\''] []
  rw [List.append_nil] at hlines
  rw [singleQuoted, hlines]
  rfl

/-- What is written for a text on one line stands on one line. -/
theorem isBreak_of_mem_writeStyled {style : ScalarStyle} {s : List Char} (h : Suits style s)
    (hstyle : style ≠ .literal) (hs : ∀ ch ∈ s, isBreak ch = false) (indent : Nat) :
    ∀ ch ∈ writeStyled indent style s, isBreak ch = false := by
  have hbetween {quote : Char} {inside : List Char} (hquote : isBreak quote = false)
      (hinside : ∀ ch ∈ inside, isBreak ch = false) :
      ∀ ch ∈ quote :: (inside ++ [quote]), isBreak ch = false := by
    intro ch hch
    simp only [List.mem_cons, List.mem_append, List.not_mem_nil, or_false] at hch
    rcases hch with rfl | hch | rfl
    · exact hquote
    · exact hinside ch hch
    · exact hquote
  cases h with
  | plain _ => exact hs
  | singleQuoted _ =>
    show ∀ ch ∈ singleQuoted indent s, isBreak ch = false
    rw [singleQuoted_of_no_break hs]
    exact hbetween (by decide) (isBreak_of_mem_inSingleQuotes hs)
  | doubleQuoted _ =>
    show ∀ ch ∈ doubleQuoted s, isBreak ch = false
    rw [doubleQuoted_eq]
    exact hbetween (by decide) fun ch hch => isBreak_of_mem_inDoubleQuotes ch hch
  | literal _ _ => exact absurd rfl hstyle

theorem two_le_utf8Size {c : Char} (h : 0xFF < c.toNat) : 2 ≤ c.utf8Size := by
  have hone : ¬c.utf8Size = 1 := by
    rw [Char.utf8Size_eq_one_iff]
    intro hle
    have hnat : c.toNat ≤ 127 := UInt32.le_iff_toNat_le.mp hle
    omega
  have hpos := c.utf8Size_pos
  omega

/-- An escape is at most six times as long as the character in UTF-8. -/
theorem length_escape_le (c : Char) : (escape c).length ≤ 6 * c.utf8Size := by
  have hpos := c.utf8Size_pos
  have hdigits (mark : Char) (width : Nat) (hwidth : 0 < width) (h : c.toNat < Nat.pow 16 width) :
      ('\\' :: mark :: (Numeral.hexPadded width c.toNat).map Char.toUpper).length = width + 2 := by
    rw [List.length_cons, List.length_cons, List.length_map, Numeral.length_hexPadded hwidth h]
  unfold escape
  split
  any_goals
    simp only [List.length_cons, List.length_nil]
    omega
  dsimp only
  split_ifs with hbyte hword
  · rw [hdigits 'x' 2 (by decide) (Nat.lt_succ_of_le hbyte)]
    omega
  -- characters with more digits have more bytes
  · have hsize := two_le_utf8Size (Nat.lt_of_not_le hbyte)
    rw [hdigits 'u' 4 (by decide) (Nat.lt_succ_of_le hword)]
    omega
  · have hsize := two_le_utf8Size (Nat.lt_of_not_le hbyte)
    rw [hdigits 'U' 8 (by decide) (Numeral.toNat_lt c)]
    omega

/-- So is what is written for a character between double quotes. -/
theorem length_inDoubleQuotes_le (c : Char) : (inDoubleQuotes c).length ≤ 6 * c.utf8Size := by
  have hpos := c.utf8Size_pos
  unfold inDoubleQuotes
  split_ifs
  · exact length_escape_le c
  · rw [List.length_singleton]
    omega

/-- Between single quotes a character takes two characters at most. -/
theorem length_inSingleQuotes_le (c : Char) : (inSingleQuotes c).length ≤ 6 * c.utf8Size := by
  have hpos := c.utf8Size_pos
  unfold inSingleQuotes
  split_ifs
  · rw [List.length_cons, List.length_singleton]
    omega
  · rw [List.length_singleton]
    omega

/-- A bound for each character is one for the text. -/
theorem length_flatMap_le {written : Char → List Char}
    (h : ∀ c, (written c).length ≤ 6 * c.utf8Size) (s : List Char) :
    (s.flatMap written).length ≤ 6 * String.utf8Len s := by
  induction s with
  | nil => exact Nat.zero_le _
  | cons c s ih =>
    have hc := h c
    rw [List.flatMap_cons, List.length_append, String.utf8Len_cons]
    omega

/-- What is written for a text on one line is not much longer than the text in bytes. -/
theorem length_writeStyled_le {style : ScalarStyle} {s : List Char} (h : Suits style s)
    (hstyle : style ≠ .literal) (hs : ∀ ch ∈ s, isBreak ch = false) (indent : Nat) :
    (writeStyled indent style s).length ≤ 6 * String.utf8Len s + 2 := by
  have hbetween {written : Char → List Char} {quote : Char}
      (hwritten : ∀ c, (written c).length ≤ 6 * c.utf8Size) :
      (quote :: (s.flatMap written ++ [quote])).length ≤ 6 * String.utf8Len s + 2 := by
    have hlength := length_flatMap_le hwritten s
    rw [List.length_cons, List.length_append, List.length_singleton]
    omega
  cases h with
  | plain _ =>
    have hlength := length_flatMap_le (fun c : Char => show [c].length ≤ 6 * c.utf8Size by
      have hpos := c.utf8Size_pos
      rw [List.length_singleton]
      omega) s
    rw [List.flatMap_singleton'] at hlength
    exact Nat.le_add_right_of_le hlength
  | singleQuoted _ =>
    show (singleQuoted indent s).length ≤ _
    rw [singleQuoted_of_no_break hs]
    exact hbetween length_inSingleQuotes_le
  | doubleQuoted _ => exact hbetween length_inDoubleQuotes_le
  | literal _ _ => exact absurd rfl hstyle

/-- A simple key stands on one line, and is short enough for the reader to find its colon. -/
theorem of_isSimpleKey {key : String} (h : isSimpleKey key = true) :
    styleOf key ≠ .literal ∧ (∀ ch ∈ key.toList, isBreak ch = false) ∧
      String.utf8Len key.toList ≤ greatestSimpleKey := by
  unfold isSimpleKey at h
  rw [Bool.and_eq_true, Bool.not_eq_true', List.any_eq_false, decide_eq_true_eq] at h
  obtain ⟨hchars, hsize⟩ := h
  have hbreaks : ∀ ch ∈ key.toList, isBreak ch = false := by
    intro ch hch
    have hnone := hchars ch hch
    simp only [Bool.or_eq_true, not_or] at hnone
    exact Bool.eq_false_iff.mpr hnone.1.1
  refine ⟨styleOf_ne_literal fun hmem => absurd (hbreaks _ hmem) (by decide), hbreaks, ?_⟩
  rw [← String.utf8ByteSize_ofList, String.ofList_toList]
  exact hsize

/-- What is written for a simple key stays on one line. -/
theorem isBreak_of_mem_simpleKey {key : String} (h : isSimpleKey key = true) (indent : Nat) :
    ∀ ch ∈ writeString indent key, isBreak ch = false := by
  obtain ⟨hstyle, hbreaks, -⟩ := of_isSimpleKey h
  rw [writeString_eq]
  exact isBreak_of_mem_writeStyled (suits_styleOf key) hstyle hbreaks indent

/-- The reach of a key is enough for what is written for a key on one line. -/
theorem length_simpleKey_le {key : String} (h : isSimpleKey key = true) (indent : Nat) :
    (writeString indent key).length ≤ Scanner.keyReach := by
  obtain ⟨hstyle, hbreaks, hsize⟩ := of_isSimpleKey h
  have hlength := length_writeStyled_le (suits_styleOf key) hstyle hbreaks indent
  have hreach : 6 * greatestSimpleKey + 2 ≤ Scanner.keyReach := by decide
  rw [writeString_eq]
  omega

/-- A key on one line with its colon. -/
def writeSimpleKey (indent : Nat) (key : String) : List Char :=
  writeString indent key ++ [':']

/-- The tokens of a member in front of its value. -/
def keyTokens (key : String) : List Token :=
  [.key, .scalar (styleOf key) key, .value]

theorem writeSimpleKey_ne_nil (indent : Nat) (key : String) : writeSimpleKey indent key ≠ [] :=
  List.append_ne_nil_of_left_ne_nil (writeString_ne_nil indent key) _

/-- A simple key starts a token, so that a block is opened for it. -/
theorem startsToken_writeSimpleKey (indent : Nat) (key : String) :
    StartsToken (writeSimpleKey indent key) :=
  (startsToken_writeString indent key).append (writeString_ne_nil indent key) [':']

/-- Behind a simple key and its colon the cursor is further in than before. -/
theorem column_lt_column_past_simpleKey {key : String} (hkey : isSimpleKey key = true)
    (indent : Nat) (c : Cursor) :
    c.column < (c.past (writeSimpleKey indent key)).column := by
  have hbreaks : ∀ ch ∈ writeSimpleKey indent key, isBreak ch = false :=
    List.forall_mem_append.mpr ⟨isBreak_of_mem_simpleKey hkey indent, forall_not_break rfl⟩
  have hpos := List.length_pos_of_ne_nil (writeSimpleKey_ne_nil indent key)
  rw [Cursor.column_past_of_no_break hbreaks]
  omega

/-! ## The text of a key with a mark -/

/-- A key that is not simple stands behind a mark of its own, and the mark of its value on the next
line. -/
theorem writeComplexKey_eq (indent : Nat) (key : String) : writeComplexKey indent key
    = ['?', ' '] ++ (ended (writeString (indent + 2) key) ++ indentation indent) ++ [':', ' '] := by
  have hended := ended_append_of_ne_nil ['?', ' '] (writeString_ne_nil (indent + 2) key)
  have hwritten : writeComplexKey indent key = ended (['?', ' '] ++ writeString (indent + 2) key)
      ++ indentation indent ++ [':', ' '] := rfl
  rw [hwritten, hended]
  simp

/-- The value of such a key stands two columns further in than the mapping. -/
theorem column_past_writeComplexKey (indent : Nat) (key : String) (c : Cursor) :
    (c.past (writeComplexKey indent key)).column = indent + 2 := by
  rw [writeComplexKey_eq, Cursor.past_append, Cursor.past_append,
    Cursor.past_of_no_break (forall_not_break (rfl : [':', ' '].any isBreak = false))]
  show (Cursor.past _ (c.past ['?', ' '])).column + 2 = indent + 2
  rw [column_past_ended]

namespace Scanner

/-! ## Opening a block -/

/-- The columns and tokens once a block is open in a column: it is open already, or an entry that
stands inside of the blocks around opens it. -/
inductive Opens (token : Token) (column : Nat) (columns : List Nat) (reversed : List Token) :
    List Nat → List Token → Prop where
  | before {outer : List Nat} (h : columns = column :: outer) :
      Opens token column columns reversed columns reversed
  | here (h : limitOf columns ≤ column) :
      Opens token column columns reversed (column :: columns) (token :: reversed)

section

variable {token : Token} {column : Nat} {columns opened : List Nat} {reversed tokens : List Token}

/-- Once a block is open in a column, that is the innermost one. -/
theorem Opens.eq_cons (h : Opens token column columns reversed opened tokens) :
    ∃ outer, opened = column :: outer := by
  cases h with
  | before h => exact ⟨_, h⟩
  | here _ => exact ⟨columns, rfl⟩

/-- A block is opened no further out than the one around it. -/
theorem Opens.head?_le (h : Opens token column columns reversed opened tokens) :
    ∀ block ∈ columns.head?, block ≤ column := by
  intro block hblock
  cases h with
  | before h =>
    rw [h] at hblock
    exact Nat.le_of_eq (Option.some.inj hblock).symm
  | here h =>
    cases columns with
    | nil => cases hblock
    | cons outer columns =>
      cases hblock
      exact Nat.le_of_succ_le h

/-- An entry inside of the blocks around it opens one of its own. -/
theorem openBlock_of_limit_le {s : Scanner} (hflow : s.inFlow = false) {position : Nat}
    (h : s.limit ≤ column) : s.openBlock column token position
      = { s with columns := column :: s.columns }.insertAt position token := by
  unfold openBlock
  rw [hflow, decide_eq_true h]
  rfl

/-- An entry in the column of the block goes on with it. -/
theorem openBlock_of_lt_limit {s : Scanner} {position : Nat} (h : column < s.limit) :
    s.openBlock column token position = s := by
  unfold openBlock
  rw [decide_eq_false (Nat.not_le.mpr h), Bool.and_false]
  rfl

/-- The tokens behind the place where a block opens stay in their order. -/
theorem openBlock_inBlock (h : Opens token column columns reversed opened tokens)
    (key : Option KeyPlace) (keyAllowed : Bool) (c : Cursor) (behind : List Token) :
    (inBlock key keyAllowed c columns (behind ++ reversed)).openBlock column token reversed.length
      = inBlock key keyAllowed c opened (behind ++ tokens) := by
  cases h with
  | before h =>
    apply openBlock_of_lt_limit
    rw [limit_inBlock, h]
    exact Nat.lt_succ_self column
  | here h =>
    rw [openBlock_of_limit_le rfl (by rw [limit_inBlock]; exact h)]
    simp [insertAt, inBlock]

end

/-! ## Marks -/

/-- A mark that starts an entry, the token that opens its collection and the token it gives: the
dash of an item or the mark of an explicit key. -/
inductive EntryMark : Char → Token → Token → Prop where
  | dash : EntryMark '-' .blockSequenceStart .blockEntry
  | question : EntryMark '?' .blockMappingStart .key

section

variable {mark : Char} {token entry : Token} {column : Nat} {columns opened : List Nat}
  {reversed tokens : List Token} {c : Cursor} {more : List Char}

theorem EntryMark.isBreak (h : EntryMark mark token entry) : Yaml.isBreak mark = false := by
  cases h <;> decide

/-- The mark of an entry gives its token, and the token that opens the block if it is the first
one. -/
theorem fetchHere_entryMark (hmark : EntryMark mark token entry)
    (h : Opens token column columns reversed opened tokens) (hcolumn : c.column = column)
    (hc : c.rest = mark :: ' ' :: more) :
    (inBlock none true c columns reversed).fetchHere
      = some (inBlock none true (c.advance 1) opened (entry :: tokens)) := by
  have hopen := openBlock_inBlock h none true c []
  rw [List.nil_append, List.nil_append] at hopen
  -- two marks with readers of their own, which treat the block in the same way
  cases hmark with
  | dash =>
    have hdash : c.atMarker '-' = false := by simp [Cursor.atMarker, hc]
    have hdot : c.atMarker '.' = false := Cursor.atMarker_of_ne hc (by decide)
    have hfetch : (inBlock none true c columns reversed).fetchHere
        = (inBlock none true c columns reversed).fetchBlockEntry := by
      simp [fetchHere, hc, hdash, hdot, endsWord, isBlank]
    rw [hfetch]
    simp [fetchBlockEntry, hcolumn, hopen]
    rfl
  | question =>
    have hfetch : (inBlock none true c columns reversed).fetchHere
        = (inBlock none true c columns reversed).fetchKey := by
      simp [fetchHere, hc, Cursor.atMarker_of_ne hc, endsWord, isBlank]
    rw [hfetch]
    simp [fetchKey, hcolumn, hopen]
    rfl

/-- Behind a mark the space is passed. -/
theorem leads_of_mark {keyAllowed : Bool} {s : Scanner}
    (hfetch : s.fetchHere = some (inBlock none keyAllowed (s.cursor.advance 1) opened tokens))
    (hmark : isBreak mark = false) (hinside : ∀ block ∈ opened.head?, block ≤ s.cursor.column)
    (hmore : StartsToken more) (hrest : s.cursor.rest = [mark, ' '] ++ more) :
    Leads s (inBlock none keyAllowed (s.cursor.past [mark, ' ']) opened tokens) := by
  have hspace : (s.cursor.advance 1).rest = indentation 1 ++ more :=
    Cursor.rest_advance_one hrest
  have hsettle := settle_spaces keyAllowed opened tokens hmore hspace fun block hblock =>
    Nat.le_trans (hinside block hblock) (Nat.le_add_right _ 2)
  rw [Cursor.past_indentation, Cursor.advance_advance] at hsettle
  have hpast : s.cursor.past [mark, ' '] = s.cursor.advance 2 := by
    apply Cursor.past_of_no_break
    simpa using ⟨hmark, by decide⟩
  have hless := Cursor.length_past_lt hrest (by simp)
  rw [hpast] at hless ⊢
  exact Leads.step hfetch hsettle hless

/-- The mark of an entry leads to what stands behind it. -/
theorem leads_entryMark (hmark : EntryMark mark token entry)
    (h : Opens token column columns reversed opened tokens) (hcolumn : c.column = column)
    (hmore : StartsToken more) (hc : c.rest = [mark, ' '] ++ more) :
    Leads (inBlock none true c columns reversed)
      (inBlock none true (c.past [mark, ' ']) opened (entry :: tokens)) := by
  obtain ⟨outer, houter⟩ := h.eq_cons
  have hinside : ∀ block ∈ opened.head?, block ≤ c.column := by
    rw [houter, hcolumn]
    rintro block ⟨⟩
    exact Nat.le_refl _
  exact leads_of_mark (fetchHere_entryMark hmark h hcolumn hc) hmark.isBreak hinside hmore hc

/-- The colon behind an explicit key leads to the value. -/
theorem leads_explicitValue {outer : List Nat} (hcolumn : c.column = column)
    (hmore : StartsToken more) (hc : c.rest = [':', ' '] ++ more) :
    Leads (inBlock none true c (column :: outer) reversed)
      (inBlock none true (c.past [':', ' ']) (column :: outer) (.value :: reversed)) := by
  have hopen : (inBlock none true c (column :: outer) reversed).openBlock c.column
      .blockMappingStart reversed.length = inBlock none true c (column :: outer) reversed := by
    rw [hcolumn]
    exact openBlock_inBlock (.before rfl) none true c []
  have hfetch : (inBlock none true c (column :: outer) reversed).fetchHere
      = some (inBlock none true (c.advance 1) (column :: outer) (.value :: reversed)) := by
    have hvalue : (inBlock none true c (column :: outer) reversed).fetchHere
        = (inBlock none true c (column :: outer) reversed).fetchValue := by
      simp [fetchHere, hc, Cursor.atMarker_of_ne hc, endsWord, isBlank]
    rw [hvalue]
    show some (((inBlock none true c (column :: outer) reversed).openBlock c.column
      .blockMappingStart reversed.length).pushMark .value true) = _
    rw [hopen]
    rfl
  exact leads_of_mark hfetch (by decide) (by rintro block ⟨⟩; exact Nat.le_of_eq hcolumn.symm)
    hmore hc

end

/-! ## Keys on one line -/

section

variable {key : String} {column : Nat} {columns opened : List Nat} {reversed tokens : List Token}
  {c : Cursor} {more : List Char} {indent : Nat}

/-- In front of its colon a key on one line is still a possible key. -/
theorem settle_simpleKey (hkey : isSimpleKey key = true)
    (hinside : ∀ block ∈ columns.head?, block ≤ c.column)
    (hc : c.rest = writeString indent key ++ ':' :: more) (reversed' : List Token) :
    (inBlock (keyAt true c columns reversed) false (c.past (writeString indent key)) columns
        reversed').settle
      = some (inBlock (keyAt true c columns reversed) false (c.past (writeString indent key))
        columns reversed') := by
  have hpast : c.past (writeString indent key) = c.advance (writeString indent key).length :=
    Cursor.past_of_no_break (isBreak_of_mem_simpleKey hkey indent) c
  have hstart : StartsToken (':' :: more) := startsToken_cons (by decide) more
  have hskip : skipToToken ((c.past (writeString indent key)).rest.length + 1)
      (inBlock (keyAt true c columns reversed) false (c.past (writeString indent key)) columns
        reversed')
      = inBlock (keyAt true c columns reversed) false (c.past (writeString indent key)) columns
        reversed' := skipToToken_spaces 0 hstart (Cursor.rest_past hc) _
  have hfresh : ∀ place ∈ keyAt true c columns reversed,
      (inBlock (keyAt true c columns reversed) false (c.past (writeString indent key)) columns
        reversed').isStale place = false := by
    -- the key started on this line and is not out of reach
    rintro place ⟨⟩
    have hnear := length_simpleKey_le hkey indent
    simp only [isStale, cursor_inBlock, hpast, Cursor.advance, Bool.or_eq_false_iff,
      decide_eq_false_iff_not]
    omega
  unfold settle
  rw [cursor_inBlock, hskip, dropStaleKeys_of_fresh (by simpa [inBlock] using hfresh),
    Option.map_some, closeBlocks_of_le]
  intro block hblock
  rw [cursor_inBlock, hpast]
  exact Nat.le_add_right_of_le (hinside block hblock)

/-- The colon behind a possible key makes it a key. -/
theorem fetchHere_value (hopens : Opens .blockMappingStart column columns reversed opened tokens)
    (hcolumn : c.column = column) (hmore : endsWord more = true) {c' : Cursor}
    (hc' : c'.rest = ':' :: more) (scalar : Token) :
    (inBlock (keyAt true c columns reversed) false c' columns (scalar :: reversed)).fetchHere
      = some (inBlock none false (c'.advance 1) opened (.value :: scalar :: .key :: tokens)) := by
  have hfetch : (inBlock (keyAt true c columns reversed) false c' columns
      (scalar :: reversed)).fetchHere
      = (inBlock (keyAt true c columns reversed) false c' columns
        (scalar :: reversed)).fetchValue := by
    simp [fetchHere, hc', Cursor.atMarker_of_ne hc', hmore]
  have hinsert : (inBlock (keyAt true c columns reversed) false c' columns
      (scalar :: reversed)).insertAt reversed.length .key
      = inBlock (keyAt true c columns reversed) false c' columns
        ([scalar, .key] ++ reversed) := by
    simp [insertAt, inBlock]
  have hopen := openBlock_inBlock hopens (keyAt true c columns reversed) false c' [scalar, .key]
  rw [hfetch]
  show some ((((inBlock (keyAt true c columns reversed) false c' columns
    (scalar :: reversed)).insertAt reversed.length .key).openBlock c.column .blockMappingStart
    reversed.length).setKey none |>.pushMark .value false) = _
  rw [hinsert, hcolumn, hopen]
  rfl

/-- A key on one line and its colon lead to what stands behind them. -/
theorem leads_simpleKey (hkey : isSimpleKey key = true)
    (hopens : Opens .blockMappingStart column columns reversed opened tokens)
    (hcolumn : c.column = column) (hindent : 0 < indent) (hmore : endsWord more = true)
    (hc : c.rest = writeSimpleKey indent key ++ more) {u : Scanner}
    (hsettle : (inBlock none false (c.past (writeSimpleKey indent key)) opened
      ((keyTokens key).reverse ++ tokens)).settle = some u)
    (hless : u.cursor.rest.length ≤ more.length) :
    Leads (inBlock none true c columns reversed) u := by
  obtain ⟨hstyle, -, -⟩ := of_isSimpleKey hkey
  have hinside : ∀ block ∈ columns.head?, block ≤ c.column := hcolumn ▸ hopens.head?_le
  have hlimit : limitOf columns ≤ c.column + 1 := by
    cases columns with
    | nil => exact Nat.zero_le _
    | cons block columns => exact Nat.succ_le_succ (hinside block rfl)
  have hc : c.rest = writeString indent key ++ ':' :: more := by
    rw [hc, writeSimpleKey, List.append_assoc, List.singleton_append]
  have hfetch : (inBlock none true c columns reversed).fetchHere = _ :=
    fetchHere_key (suits_styleOf key) hstyle hindent hmore hlimit (writeString_eq _ _ ▸ hc)
  rw [← writeString_eq, String.ofList_toList] at hfetch
  have hrest : (c.past (writeString indent key)).rest = ':' :: more := Cursor.rest_past hc
  have hcolon : c.past (writeSimpleKey indent key)
      = (c.past (writeString indent key)).advance 1 := by
    rw [writeSimpleKey, Cursor.past_append, Cursor.past_of_no_break (forall_not_break rfl)]
    rfl
  rw [hcolon] at hsettle
  -- the key is read as a scalar first; the colon then makes it one
  refine (Leads.step hfetch (settle_simpleKey hkey hinside hc _) ?_).trans
    (Leads.step (fetchHere_value hopens hcolumn hmore hrest _) hsettle ?_)
  · exact Cursor.length_past_lt hc (writeString_ne_nil indent key)
  · rw [cursor_inBlock, hrest]
    exact Nat.lt_succ_of_le hless

/-- A value behind the colon. -/
theorem leads_simpleKey_here (hkey : isSimpleKey key = true)
    (hopens : Opens .blockMappingStart column columns reversed opened tokens)
    (hcolumn : c.column = column) (hindent : 0 < indent) (hmore : StartsToken more)
    (hc : c.rest = writeSimpleKey indent key ++ [' '] ++ more) :
    Leads (inBlock none true c columns reversed)
      (inBlock none false (c.past (writeSimpleKey indent key ++ [' '])) opened
        ((keyTokens key).reverse ++ tokens)) := by
  rw [List.append_assoc] at hc
  have hrest : (c.past (writeSimpleKey indent key)).rest = indentation 1 ++ more :=
    Cursor.rest_past hc
  rw [Cursor.past_append]
  refine leads_simpleKey hkey hopens hcolumn hindent rfl hc
    (settle_spaces false opened _ hmore hrest ?_) ?_
  · obtain ⟨outer, rfl⟩ := hopens.eq_cons
    rintro block ⟨⟩
    have hless := column_lt_column_past_simpleKey hkey indent c
    omega
  · have hpast : ((c.past (writeSimpleKey indent key)).past [' ']).rest = more :=
      Cursor.rest_past hrest
    rw [cursor_inBlock, hpast]
    exact Nat.le_succ _

/-- A value below its key. -/
theorem leads_simpleKey_below (hkey : isSimpleKey key = true)
    (hopens : Opens .blockMappingStart column columns reversed opened tokens)
    (hcolumn : c.column = column) (hindent : 0 < indent) {below : Nat} (hbelow : column ≤ below)
    (hmore : StartsToken more)
    (hc : c.rest = writeSimpleKey indent key ++ '\n' :: indentation below ++ more) :
    Leads (inBlock none true c columns reversed)
      (inBlock none true (c.past (writeSimpleKey indent key ++ '\n' :: indentation below)) opened
        ((keyTokens key).reverse ++ tokens)) := by
  rw [List.append_assoc] at hc
  have hrest : (c.past (writeSimpleKey indent key)).rest = '\n' :: (indentation below ++ more) :=
    Cursor.rest_past hc
  have hpast : ((c.past (writeSimpleKey indent key)).past ('\n' :: indentation below)).rest
      = more := Cursor.rest_past hrest
  obtain ⟨outer, rfl⟩ := hopens.eq_cons
  have hsettle := settle_line none false (column :: outer) ((keyTokens key).reverse ++ tokens)
    hmore hrest nofun
  rw [closeBlocks_inside hbelow] at hsettle
  rw [Cursor.past_append]
  refine leads_simpleKey hkey hopens hcolumn hindent rfl hc hsettle ?_
  rw [cursor_inBlock, hpast, List.length_append]
  omega

/-! ## Keys with a mark -/

/-- A key with a mark and its colon lead to the value. -/
theorem leads_complexKey
    (hopens : Opens .blockMappingStart column columns reversed opened tokens)
    (hcolumn : c.column = column) (hmore : StartsToken more)
    (hc : c.rest = writeComplexKey column key ++ more) :
    Leads (inBlock none true c columns reversed)
      (inBlock none true (c.past (writeComplexKey column key)) opened
        ((keyTokens key).reverse ++ tokens)) := by
  obtain ⟨outer, rfl⟩ := hopens.eq_cons
  have hmark : c.rest = ['?', ' '] ++ ((ended (writeString (column + 2) key)
      ++ indentation column) ++ ([':', ' '] ++ more)) := by
    rw [hc, writeComplexKey_eq]
    simp
  have hrest := Cursor.rest_past hmark
  have hstart : StartsToken ((ended (writeString (column + 2) key) ++ indentation column)
      ++ ([':', ' '] ++ more)) := by
    rw [ended, List.append_assoc, List.append_assoc]
    exact (startsToken_writeString _ key).append (writeString_ne_nil _ key) _
  have hend : EndsNode (limitOf (column :: outer)) column ([':', ' '] ++ more) :=
    ⟨startsToken_cons (by decide) _, Or.inl (Nat.lt_succ_self column)⟩
  have hlimit : limitOf (column :: outer) ≤ (c.past ['?', ' ']).column := by
    rw [Cursor.past_of_no_break (forall_not_break rfl)]
    show column + 1 ≤ c.column + 2
    omega
  have hwritten : writeStyled (limitOf (column :: outer) - 1 + 2) (styleOf key) key.toList
      = writeString (column + 2) key := (writeString_eq _ key).symm
  -- behind its mark such a key is a scalar at the end of a line
  have hkey : Leads (inBlock none true (c.past ['?', ' ']) (column :: outer) (.key :: tokens)) _ :=
    leads_scalar (suits_styleOf key) hend hlimit (by rw [hrest, hwritten, List.append_assoc])
  rw [closeBlocks_inside (Nat.le_refl column), String.ofList_toList, hwritten] at hkey
  rw [writeComplexKey_eq, Cursor.past_append, Cursor.past_append]
  exact ((leads_entryMark .question hopens hcolumn hstart hmark).trans hkey).trans
    (leads_explicitValue (column_past_ended _ _ _) hmore (Cursor.rest_past hrest))

end

end Scanner

end LayeredSchema.Yaml
