import LayeredSchema.Proofs.Text.Numeral
import LayeredSchema.Proofs.Yaml.Cursor
import LayeredSchema.Yaml.Token.Quoted

/-!
# Quoted scalars are read back

A character between quotes is read from what is written for it, `readsAs_inSingleQuotes` and
`readsAs_inDoubleQuotes`, and so are the words of a text, `takeQuotedWord_flatMap`. Between words
stand spaces, or line breaks that are kept and behind them indentation that is dropped. The whole
text comes back in `takeQuoted_singleQuoted` and `takeQuoted_doubleQuoted`.
-/

namespace LayeredSchema.Yaml

open Numeral

/-! ## One character -/

/-- A character is read from what is written for it, whatever follows. -/
structure ReadsAs (single : Bool) (ch : Char) (written : List Char) : Prop where
  ne_nil : written ≠ []
  read : ∀ (fuel : Nat) (c c' : Cursor) (rest word : List Char) (lineEnd : LineEnd),
    c.rest = written ++ rest →
    takeQuotedWord single fuel (c.past written) = some (word, lineEnd, c') →
    takeQuotedWord single (fuel + 1) c = some (ch :: word, lineEnd, c')

/-- A character between single quotes. -/
def inSingleQuotes (c : Char) : List Char :=
  if c = '\'' then ['\'', '\''] else [c]

/-- A character between double quotes. -/
def inDoubleQuotes (c : Char) : List Char :=
  if !isWritable c || isBreak c || c = '"' || c = '\\' then escape c else [c]

theorem doubleQuoted_eq (s : List Char) :
    doubleQuoted s = '"' :: (s.flatMap inDoubleQuotes ++ ['"']) := rfl

/-- A character that is no blank, no break and no mark of the quotes is read as it is. -/
theorem readsAs_self {single : Bool} {ch : Char} (hblank : isBlank ch = false)
    (hbreak : isBreak ch = false) (hquote : ch ≠ if single then '\'' else '"')
    (hescape : single = false → ch ≠ '\\') : ReadsAs single ch [ch] := by
  refine ⟨List.cons_ne_nil ch [], fun fuel c c' rest word lineEnd hc hword => ?_⟩
  rw [Cursor.past_cons_of_not_break hbreak, Cursor.past_nil] at hword
  rw [takeQuotedWord, hc]
  cases single with
  | true =>
    have hquote : ch ≠ '\'' := hquote
    simp [hblank, hbreak, hquote, hword]
  | false =>
    have hquote : ch ≠ '"' := hquote
    simp [hblank, hbreak, hquote, hescape rfl, hword]

/-- Between single quotes a character is read as it is, and two quotes as one. -/
theorem readsAs_inSingleQuotes {ch : Char} (hblank : isBlank ch = false)
    (hbreak : isBreak ch = false) : ReadsAs true ch (inSingleQuotes ch) := by
  unfold inSingleQuotes
  split_ifs with hquote
  · subst hquote
    refine ⟨List.cons_ne_nil _ _, fun fuel c c' rest word lineEnd hc hword => ?_⟩
    have hpast : c.past ['\'', '\''] = c.advance 2 :=
      Cursor.past_of_no_break (forall_not_break rfl) c
    rw [hpast] at hword
    rw [takeQuotedWord, hc]
    simp [isBlank, isBreak, hword]
  · exact readsAs_self hblank hbreak hquote fun hdouble => by cases hdouble

/-! ## Escapes -/

/-- A character is read from the digits of its code point. -/
theorem takeEscape_digits {c mark : Char} {width : Nat} (hmark : escapeWidth? mark = some width)
    (hwidth : 0 < width) (h : c.toNat < Nat.pow 16 width) (rest : List Char) :
    takeEscape (mark :: ((hexPadded width c.toNat).map Char.toUpper ++ rest))
      = some (c, ((hexPadded width c.toNat).map Char.toUpper).length + 1) := by
  rw [List.length_map, length_hexPadded hwidth h]
  simp [takeEscape, hmark, takeHex_hexPadded_toUpper hwidth h, scalar?_toNat]

/-- The digits of an escape are printable, capitals among them. -/
theorem printable_of_mem_digits {width n : Nat} {d : Char}
    (h : d ∈ (hexPadded width n).map Char.toUpper) : 0x20 ≤ d.toNat ∧ d.toNat ≤ 0x7E := by
  obtain ⟨e, he, rfl⟩ := List.mem_map.mp h
  exact toNat_of_isDigit (isDigit_toUpper (isDigit_of_mem_hexPadded width n e he))

/-- An escape is a backslash and printable characters, from which the character is read. -/
theorem escape_eq_cons (c : Char) : ∃ d more, escape c = '\\' :: d :: more ∧
    (∀ e ∈ d :: more, 0x20 ≤ e.toNat ∧ e.toNat ≤ 0x7E) ∧
    ∀ rest, takeEscape (d :: (more ++ rest)) = some (c, more.length + 1) := by
  have hdigits (mark : Char) (width : Nat) (hmark : escapeWidth? mark = some width)
      (hprintable : 0x20 ≤ mark.toNat ∧ mark.toNat ≤ 0x7E) (hwidth : 0 < width)
      (h : c.toNat < Nat.pow 16 width) :
      ∃ d more, '\\' :: mark :: (hexPadded width c.toNat).map Char.toUpper = '\\' :: d :: more ∧
        (∀ e ∈ d :: more, 0x20 ≤ e.toNat ∧ e.toNat ≤ 0x7E) ∧
        ∀ rest, takeEscape (d :: (more ++ rest)) = some (c, more.length + 1) := by
    refine ⟨mark, _, rfl, ?_, takeEscape_digits hmark hwidth h⟩
    intro e he
    rcases List.mem_cons.mp he with rfl | he
    · exact hprintable
    · exact printable_of_mem_digits he
  unfold escape
  split
  -- the escapes of one character
  any_goals exact ⟨_, [], rfl, List.forall_mem_singleton.mpr (by decide), fun _ => rfl⟩
  dsimp only
  split_ifs with hbyte hword
  · exact hdigits 'x' 2 rfl (by decide) (by decide) (Nat.lt_succ_of_le hbyte)
  · exact hdigits 'u' 4 rfl (by decide) (by decide) (Nat.lt_succ_of_le hword)
  · exact hdigits 'U' 8 rfl (by decide) (by decide) (toNat_lt c)

/-- An escape is made of printable characters, whatever it stands for. -/
theorem printable_of_mem_escape {c d : Char} (h : d ∈ escape c) :
    0x20 ≤ d.toNat ∧ d.toNat ≤ 0x7E := by
  obtain ⟨e, more, hescape, hprintable, -⟩ := escape_eq_cons c
  rw [hescape] at h
  rcases List.mem_cons.mp h with rfl | hmem
  · decide
  · exact hprintable d hmem

/-- So an escape stays on its line. -/
theorem isBreak_of_mem_escape {c d : Char} (h : d ∈ escape c) : isBreak d = false :=
  isBreak_of_printable (printable_of_mem_escape h)

/-- An escape is read as the character that it stands for. -/
theorem readsAs_escape (ch : Char) : ReadsAs false ch (escape ch) := by
  obtain ⟨d, more, hescape, hprintable, hread⟩ := escape_eq_cons ch
  refine ⟨by simp [hescape], fun fuel c c' rest word lineEnd hc hword => ?_⟩
  rw [Cursor.past_of_no_break fun d => isBreak_of_mem_escape] at hword
  rw [hescape] at hc hword
  have hword : takeQuotedWord false fuel (c.advance (more.length + 1 + 1))
      = some (word, lineEnd, c') := hword
  have hmark : isBreak '\\' = false := by decide
  have hd : isBreak d = false := isBreak_of_printable (hprintable d List.mem_cons_self)
  rw [takeQuotedWord, hc]
  simp [isBlank, hmark, hd, hread rest, hword]

/-- Between double quotes a character is read from what is written for it; spaces end words and are
read with gaps. -/
theorem readsAs_inDoubleQuotes {ch : Char} (hspace : isSpace ch = false) :
    ReadsAs false ch (inDoubleQuotes ch) := by
  unfold inDoubleQuotes
  split_ifs with hch
  · exact readsAs_escape ch
  · simp only [Bool.or_eq_true, decide_eq_true_eq, not_or] at hch
    obtain ⟨⟨⟨hwritable, hbreak⟩, hquote⟩, hescape⟩ := hch
    have hwritable : isWritable ch = true := by simpa using hwritable
    exact readsAs_self (isBlank_of_isWritable hwritable hspace) (Bool.eq_false_iff.mpr hbreak)
      hquote fun _ => hescape

/-! ## Words -/

/-- Behind a word the reader of its characters stops. -/
def StopsWord (single : Bool) (more : List Char) : Prop :=
  ∀ (fuel : Nat) (c : Cursor), c.rest = more → takeQuotedWord single fuel c = some ([], .stop, c)

/-- A word is read character by character. -/
theorem takeQuotedWord_flatMap {single : Bool} {written : Char → List Char} {word more : List Char}
    (hword : ∀ ch ∈ word, ReadsAs single ch (written ch)) (hmore : StopsWord single more)
    {c : Cursor} (hc : c.rest = word.flatMap written ++ more) :
    takeQuotedWord single c.rest.length c = some (word, .stop, c.past (word.flatMap written)) := by
  have hlength : word.length ≤ (word.flatMap written).length :=
    length_le_length_flatMap fun ch hch => (hword ch hch).ne_nil
  have hfuel : word.length ≤ c.rest.length := by rw [hc, List.length_append]; omega
  clear hlength
  generalize c.rest.length = fuel at hfuel
  induction word generalizing fuel c with
  | nil => exact hmore fuel c hc
  | cons ch word ih =>
    cases fuel with
    | zero => simp at hfuel
    | succ fuel =>
      obtain ⟨hch, hothers⟩ := List.forall_mem_cons.mp hword
      rw [List.flatMap_cons, List.append_assoc] at hc
      have hread := ih hothers (Cursor.rest_past hc) fuel (Nat.le_of_succ_le_succ hfuel)
      rw [List.flatMap_cons, Cursor.past_append]
      exact hch.read fuel c _ _ word .stop hc hread

/-- A word ends in front of a gap. -/
theorem stopsWord_of_blank {single : Bool} {ch : Char} (h : isBlank ch = true ∨ isBreak ch = true)
    (more : List Char) : StopsWord single (ch :: more) := by
  intro fuel c hc
  cases fuel with
  | zero => rfl
  | succ fuel => simp [takeQuotedWord, hc, h]

/-- The closing quote stops a word, between single quotes if it is not doubled. -/
theorem stopsWord_quote {single : Bool} {more : List Char}
    (h : single = true → more.head? ≠ some '\'') :
    StopsWord single ((if single then '\'' else '"') :: more) := by
  intro fuel c hc
  cases fuel with
  | zero => rfl
  | succ fuel =>
    cases single with
    | true => simp [takeQuotedWord, hc, h rfl]
    | false => simp [takeQuotedWord, hc]

/-- Spaces are written as they are. -/
theorem flatMap_spaces {written : Char → List Char} (hspace : written ' ' = [' ']) {gap : List Char}
    (h : ∀ ch ∈ gap, ch = ' ') : gap.flatMap written = gap := by
  induction gap with
  | nil => rfl
  | cons ch gap ih =>
    obtain ⟨rfl, hgap⟩ := List.forall_mem_cons.mp h
    rw [List.flatMap_cons, ih hgap, hspace, List.singleton_append]

/-! ## Texts -/

section

variable {single : Bool} {fuel : Nat} {c : Cursor} {word written : List Char}

/-- The closing quote ends the scalar. -/
theorem takeQuoted_close {more : List Char} (hcolumn : 0 < c.column)
    (hc : c.rest = written ++ (if single then '\'' else '"') :: more)
    (hword : takeQuotedWord single c.rest.length c = some (word, .stop, c.past written)) :
    takeQuoted single (fuel + 1) c
      = some (word, c.past (written ++ [if single then '\'' else '"'])) := by
  have hrest := Cursor.rest_past hc
  have hmarker := Cursor.atDocumentMarker_of_column hcolumn
  have hquote : isBreak (if single then '\'' else '"') = false := by cases single <;> decide
  have hstart : ¬(c.atDocumentMarker = true ∨ c.rest = []) := by simp [hmarker, hc]
  rw [takeQuoted, if_neg hstart, hword, Cursor.past_append, Cursor.past_cons_of_not_break hquote,
    Cursor.past_nil]
  simp [hrest]

/-- A gap is read with the words in front of it and behind it. -/
theorem takeQuoted_gap {gap more rest : List Char} {c' : Cursor} (hcolumn : 0 < c.column)
    (hc : c.rest = written ++ (gap ++ more))
    (hword : takeQuotedWord single c.rest.length c = some (word, .stop, c.past written))
    (hne : gap ≠ []) (hgap : ∀ ch ∈ gap, ch = ' ' ∨ isBreak ch = true)
    (hmore : ∀ ch ∈ more.head?, isBlank ch = false ∧ isBreak ch = false)
    (hrest : takeQuoted single fuel (c.past (written ++ gap)) = some (rest, c')) :
    takeQuoted single (fuel + 1) c
      = some (word ++ (gap.foldl Gap.extend {}).folded ++ rest, c') := by
  have hpast := Cursor.rest_past hc
  have hmarker := Cursor.atDocumentMarker_of_column hcolumn
  have hfuel : gap.length ≤ (c.past written).rest.length := by simp [hpast]
  have hread : takeGap 0 (c.past written).rest.length {} (c.past written) = _ :=
    takeGap_eq hgap hmore hfuel {} hpast
  rw [Cursor.past_append] at hrest
  obtain ⟨ch, gap, rfl⟩ := List.exists_cons_of_ne_nil hne
  -- the gap does not start with the closing quote
  have hquote : ch ≠ if single then '\'' else '"' := by
    rcases hgap ch List.mem_cons_self with rfl | hbreak
    · cases single <;> decide
    · cases single <;> rintro rfl <;> exact absurd hbreak (by decide)
  have hstart : ¬(c.atDocumentMarker = true ∨ c.rest = []) := by simp [hmarker, hc]
  rw [takeQuoted, if_neg hstart, hword]
  simp only [Option.bind_eq_bind, Option.bind_some, hread, hrest]
  simp [hpast, hquote]

end

/-! ## Double quotes -/

/-- What is written for a character starts with no blank and no break unless the character is a
space, and no break stands in it. -/
theorem inDoubleQuotes_eq_cons (ch : Char) : ∃ d more, inDoubleQuotes ch = d :: more ∧
    (isSpace ch = false → isBlank d = false) ∧ ∀ e ∈ d :: more, isBreak e = false := by
  unfold inDoubleQuotes
  split_ifs with hch
  · obtain ⟨d, more, hescape, -⟩ := escape_eq_cons ch
    refine ⟨'\\', d :: more, hescape, fun _ => by decide, ?_⟩
    rw [← hescape]
    exact fun e => isBreak_of_mem_escape
  · simp only [Bool.or_eq_true, not_or] at hch
    obtain ⟨⟨⟨hwritable, hbreak⟩, -⟩, -⟩ := hch
    have hwritable : isWritable ch = true := by simpa using hwritable
    refine ⟨ch, [], rfl, isBlank_of_isWritable hwritable, ?_⟩
    simpa using hbreak

/-- What is written between double quotes is no shorter than the text, so its length bounds the
reader's loop. -/
theorem length_le_length_inDoubleQuotes (s : List Char) :
    s.length ≤ (s.flatMap inDoubleQuotes).length := by
  apply length_le_length_flatMap
  intro ch _ hnil
  obtain ⟨d, more, hwritten, -⟩ := inDoubleQuotes_eq_cons ch
  rw [hwritten] at hnil
  cases hnil

/-- A text between double quotes stays on one line: its breaks are escaped. -/
theorem isBreak_of_mem_inDoubleQuotes {s : List Char} :
    ∀ e ∈ s.flatMap inDoubleQuotes, isBreak e = false := by
  intro e he
  obtain ⟨ch, -, hch⟩ := List.mem_flatMap.mp he
  obtain ⟨d, more, hwritten, -, hbreak⟩ := inDoubleQuotes_eq_cons ch
  exact hbreak e (hwritten ▸ hch)

/-- A word that does not start with a space does not start with a blank or a break when written
either. -/
theorem head?_flatMap_inDoubleQuotes {s tail : List Char}
    (h : ∀ ch ∈ s.head?, isSpace ch = false) :
    ∀ ch ∈ (s.flatMap inDoubleQuotes ++ '"' :: tail).head?,
      isBlank ch = false ∧ isBreak ch = false := by
  cases s with
  | nil =>
    rintro ch ⟨⟩
    decide
  | cons ch s =>
    obtain ⟨d, more, hwritten, hblank, hbreak⟩ := inDoubleQuotes_eq_cons ch
    rw [List.flatMap_cons, hwritten]
    rintro e ⟨⟩
    exact ⟨hblank (h ch rfl), hbreak d List.mem_cons_self⟩

/-- A text between double quotes is read back. -/
theorem takeQuoted_doubleQuoted (s tail : List Char) {fuel : Nat} (hfuel : s.length < fuel)
    {c : Cursor} (hcolumn : 0 < c.column)
    (hc : c.rest = s.flatMap inDoubleQuotes ++ '"' :: tail) :
    takeQuoted false fuel c = some (s, c.past (s.flatMap inDoubleQuotes ++ ['"'])) := by
  -- word by word, since gaps are read apart from words
  induction s using words_induction isSpace generalizing fuel c with
  | step word gap rest hword hgap hrest hlast ih =>
    obtain ⟨fuel, rfl⟩ : ∃ n, fuel = n + 1 := ⟨fuel - 1, by omega⟩
    have hchars : ∀ ch ∈ word, ReadsAs false ch (inDoubleQuotes ch) := fun ch hch =>
      readsAs_inDoubleQuotes (hword ch hch)
    have hspaces : ∀ ch ∈ gap, ch = ' ' := fun ch hch => eq_space_of_isSpace (hgap ch hch)
    rw [List.flatMap_append, List.flatMap_append, flatMap_spaces rfl hspaces] at hc ⊢
    rw [List.append_assoc, List.append_assoc] at hc
    by_cases hne : gap = []
    · obtain rfl : rest = [] := hlast hne
      subst hne
      have hclose : StopsWord false ('"' :: tail) := stopsWord_quote nofun
      simpa using takeQuoted_close hcolumn hc (takeQuotedWord_flatMap hchars hclose hc)
    · have hstop : StopsWord false (gap ++ (rest.flatMap inDoubleQuotes ++ '"' :: tail)) := by
        obtain ⟨ch, gap, rfl⟩ := List.exists_cons_of_ne_nil hne
        exact stopsWord_of_blank (by rw [hspaces ch List.mem_cons_self]; decide) _
      have hno_break : ∀ ch ∈ word.flatMap inDoubleQuotes ++ gap, isBreak ch = false := by
        intro ch hch
        rcases List.mem_append.mp hch with hmem | hmem
        · exact isBreak_of_mem_inDoubleQuotes ch hmem
        · rw [hspaces ch hmem]
          decide
      have hless : rest.length < fuel := by
        have hpos := List.length_pos_of_ne_nil hne
        simp only [List.length_append] at hfuel
        omega
      have hpast : (c.past (word.flatMap inDoubleQuotes ++ gap)).rest
          = rest.flatMap inDoubleQuotes ++ '"' :: tail :=
        Cursor.rest_past (by rw [hc, List.append_assoc])
      have hnext := ih hne hless (Cursor.column_past_pos hcolumn hno_break) hpast
      rw [takeQuoted_gap hcolumn hc (takeQuotedWord_flatMap hchars hstop hc) hne
        (fun ch hch => Or.inl (hspaces ch hch)) (head?_flatMap_inDoubleQuotes hrest) hnext,
        foldl_extend_spaces hspaces, ← Cursor.past_append]
      simp [Gap.folded]

/-! ## Single quotes -/

/-- Neighbours in the front part of a text are neighbours in the text. -/
theorem hasNeighbours_of_append_left {p q : Char → Bool} {front back : List Char}
    (h : hasNeighbours p q (front ++ back) = false) : hasNeighbours p q front = false := by
  induction front with
  | nil => rfl
  | cons a front ih =>
    cases front with
    | nil => rfl
    | cons b front =>
      rw [List.cons_append, List.cons_append, hasNeighbours, Bool.or_eq_false_iff] at h
      rw [hasNeighbours, h.1, ih h.2]
      rfl

/-- Neighbours in the back part of a text are neighbours in the text. -/
theorem hasNeighbours_of_append_right {p q : Char → Bool} {front back : List Char}
    (h : hasNeighbours p q (front ++ back) = false) : hasNeighbours p q back = false := by
  induction front with
  | nil => exact h
  | cons a front ih =>
    apply ih
    cases hrest : front ++ back with
    | nil => rfl
    | cons b rest =>
      rw [List.cons_append, hrest, hasNeighbours, Bool.or_eq_false_iff] at h
      exact h.2

/-- A text whose spaces and breaks are kept between single quotes: no space stands beside a break,
and no break is folded. -/
structure KeepsGaps (s : List Char) : Prop where
  writable : ∀ c ∈ s, isWritable c = true
  no_space_break : hasNeighbours isSpace isBreak s = false
  no_break_space : hasNeighbours isBreak isSpace s = false
  no_line_feed : '\n' ∉ s

namespace KeepsGaps

/-- The front part of a text whose gaps are kept is such a text. -/
theorem left {front back : List Char} (h : KeepsGaps (front ++ back)) : KeepsGaps front :=
  ⟨fun c hc => h.writable c (List.mem_append_left _ hc),
    hasNeighbours_of_append_left h.no_space_break, hasNeighbours_of_append_left h.no_break_space,
    fun hmem => h.no_line_feed (List.mem_append_left _ hmem)⟩

/-- The back part of a text whose gaps are kept is such a text. -/
theorem right {front back : List Char} (h : KeepsGaps (front ++ back)) : KeepsGaps back :=
  ⟨fun c hc => h.writable c (List.mem_append_right _ hc),
    hasNeighbours_of_append_right h.no_space_break, hasNeighbours_of_append_right h.no_break_space,
    fun hmem => h.no_line_feed (List.mem_append_right _ hmem)⟩

/-- A gap has only spaces or only breaks. -/
theorem spaces_or_breaks {gap : List Char} (h : KeepsGaps gap)
    (hgap : ∀ c ∈ gap, (isSpace c || isBreak c) = true) :
    (∀ c ∈ gap, c = ' ') ∨ ∀ c ∈ gap, isBreak c = true := by
  -- from the back: a character is of the kind of the next one, or they could not be neighbours
  induction gap with
  | nil => exact Or.inl nofun
  | cons a gap ih =>
    obtain ⟨ha, hothers⟩ := List.forall_mem_cons.mp hgap
    rw [Bool.or_eq_true] at ha
    cases gap with
    | nil =>
      rcases ha with hspace | hbreak
      · exact Or.inl (by simpa using eq_space_of_isSpace hspace)
      · exact Or.inr (by simpa using hbreak)
    | cons b gap =>
      have hspace_break := h.no_space_break
      have hbreak_space := h.no_break_space
      rw [hasNeighbours, Bool.or_eq_false_iff] at hspace_break hbreak_space
      have hright : KeepsGaps (b :: gap) := right (show KeepsGaps ([a] ++ b :: gap) from h)
      rcases ih hright hothers with hspaces | hbreaks
      · have hb : isSpace b = true := by rw [hspaces b List.mem_cons_self]; decide
        rw [hb, Bool.and_true] at hbreak_space
        have hspace : isSpace a = true := ha.resolve_right (by simp [hbreak_space.1])
        exact Or.inl (List.forall_mem_cons.mpr ⟨eq_space_of_isSpace hspace, hspaces⟩)
      · rw [hbreaks b List.mem_cons_self, Bool.and_true] at hspace_break
        have hbreak : isBreak a = true := ha.resolve_left (by simp [hspace_break.1])
        exact Or.inr (List.forall_mem_cons.mpr ⟨hbreak, hbreaks⟩)

end KeepsGaps

/-- Breaks without a line feed among them are kept. -/
theorem folded_breaks {breaks : List Char} (hne : breaks ≠ []) (h : '\n' ∉ breaks) :
    Gap.folded { breaks } = breaks := by
  unfold Gap.folded
  split
  · next heq => exact absurd heq hne
  · next heq =>
    obtain rfl : breaks = ['\n'] := heq
    exact absurd List.mem_cons_self h
  · next more _ heq =>
    obtain rfl : breaks = '\n' :: more := heq
    exact absurd List.mem_cons_self h
  · rfl

/-- Doubling quotes puts in no break. -/
theorem isBreak_of_mem_inSingleQuotes {word : List Char} (h : ∀ ch ∈ word, isBreak ch = false) :
    ∀ e ∈ word.flatMap inSingleQuotes, isBreak e = false := by
  intro e he
  obtain ⟨ch, hch, hwritten⟩ := List.mem_flatMap.mp he
  obtain rfl : e = ch := by
    unfold inSingleQuotes at hwritten
    split_ifs at hwritten with hquote
    · rw [hquote]
      simpa using hwritten
    · exact List.mem_singleton.mp hwritten
  exact h e hch

/-- Inside a line a word is written character by character. -/
theorem indentLines_word {word : List Char} (h : ∀ ch ∈ word, isBreak ch = false) (indent : Nat)
    (close s : List Char) : indentLines indent false close (word ++ s)
      = word.flatMap inSingleQuotes ++ indentLines indent false close s := by
  induction word with
  | nil => rfl
  | cons ch word ih =>
    obtain ⟨hch, hword⟩ := List.forall_mem_cons.mp h
    rw [List.cons_append, indentLines, hch, ih hword, List.flatMap_cons]
    simp [inSingleQuotes]

/-- Breaks are written as they are, and what comes next starts a line. -/
theorem indentLines_breaks {breaks : List Char} (h : ∀ ch ∈ breaks, isBreak ch = true)
    (hne : breaks ≠ []) (indent : Nat) (atBreak : Bool) (close s : List Char) :
    indentLines indent atBreak close (breaks ++ s)
      = breaks ++ indentLines indent true close s := by
  induction breaks generalizing atBreak with
  | nil => exact absurd rfl hne
  | cons ch breaks ih =>
    obtain ⟨hch, hbreaks⟩ := List.forall_mem_cons.mp h
    rw [List.cons_append, indentLines, if_pos hch]
    by_cases hlast : breaks = []
    · rw [hlast]
      rfl
    · rw [ih hbreaks hlast, List.cons_append]

/-- What is written between single quotes is no shorter than the text. -/
theorem length_le_length_indentLines (indent : Nat) (atBreak : Bool) (close s : List Char) :
    s.length ≤ (indentLines indent atBreak close s).length := by
  induction s generalizing atBreak with
  | nil => exact Nat.zero_le _
  | cons ch s ih =>
    rw [indentLines, List.length_cons]
    split_ifs
    · exact Nat.succ_le_succ (ih true)
    all_goals
      have hle := ih false
      simp only [List.length_append, List.length_cons, List.length_nil]
      omega

/-- The indentation stands in front of the first word. -/
theorem indentLines_true {s : List Char} (h : ∀ ch ∈ s.head?, isBreak ch = false) (indent : Nat)
    (close : List Char) : indentLines indent true close s
      = indentation indent ++ indentLines indent false close s := by
  cases s with
  | nil => rfl
  | cons ch s =>
    rw [indentLines, indentLines, h ch rfl]
    simp

/-- A text that does not start with a gap does not start with one when written either. -/
theorem head?_indentLines {s tail : List Char} (hs : KeepsGaps s)
    (h : ∀ ch ∈ s.head?, (isSpace ch || isBreak ch) = false) (indent : Nat) :
    ∀ ch ∈ (indentLines indent false ['\''] s ++ tail).head?,
      isBlank ch = false ∧ isBreak ch = false := by
  cases s with
  | nil =>
    rintro ch ⟨⟩
    decide
  | cons d s =>
    have hd := h d rfl
    rw [Bool.or_eq_false_iff] at hd
    have hblank := isBlank_of_isWritable (hs.writable d List.mem_cons_self) hd.1
    rw [indentLines, hd.2]
    by_cases hquote : d = '\''
    · subst hquote
      rintro ch ⟨⟩
      decide
    · intro ch hch
      simp only [hquote] at hch
      cases hch
      exact ⟨hblank, hd.2⟩

/-- What is written for a gap is passed as a gap, and the word behind it is not at the start of a
line. -/
theorem exists_gap_indentLines {gap rest : List Char} (hs : KeepsGaps gap) (hne : gap ≠ [])
    (hgap : ∀ ch ∈ gap, (isSpace ch || isBreak ch) = true)
    (hrest : ∀ ch ∈ rest.head?, (isSpace ch || isBreak ch) = false) {indent : Nat}
    (hindent : 0 < indent) (close : List Char) :
    ∃ written, indentLines indent false close (gap ++ rest)
        = written ++ indentLines indent false close rest ∧
      written ≠ [] ∧ (∀ ch ∈ written, ch = ' ' ∨ isBreak ch = true) ∧
      (written.foldl Gap.extend {}).folded = gap ∧
      ∀ c : Cursor, 0 < c.column → 0 < (c.past written).column := by
  -- breaks are folded and lines indented behind them, spaces are not
  rcases hs.spaces_or_breaks hgap with hspaces | hbreaks
  · have hno_break : ∀ ch ∈ gap, isBreak ch = false := fun ch hch => by
      rw [hspaces ch hch]
      decide
    refine ⟨gap, ?_, hne, fun ch hch => Or.inl (hspaces ch hch), ?_, fun c hc =>
      Cursor.column_past_pos hc hno_break⟩
    · rw [indentLines_word hno_break, flatMap_spaces rfl hspaces]
    · rw [foldl_extend_spaces hspaces]
      rfl
  · have hhead : ∀ ch ∈ rest.head?, isBreak ch = false := fun ch hch =>
      (Bool.or_eq_false_iff.mp (hrest ch hch)).2
    refine ⟨gap ++ indentation indent, ?_, by simp [hne], ?_, ?_, ?_⟩
    · rw [indentLines_breaks hbreaks hne, indentLines_true hhead, List.append_assoc]
    · intro ch hch
      rcases List.mem_append.mp hch with hmem | hmem
      · exact Or.inr (hbreaks ch hmem)
      · exact Or.inl (mem_indentation hmem)
    · rw [foldl_extend_breaks hbreaks hne, folded_breaks hne hs.no_line_feed]
    · intro c _
      rw [Cursor.past_append, Cursor.past_indentation]
      exact Nat.add_pos_right _ hindent

/-- A text between single quotes is read back. -/
theorem takeQuoted_singleQuoted {s tail : List Char} (hs : KeepsGaps s)
    (htail : tail.head? ≠ some '\'') {indent : Nat} (hindent : 0 < indent) {fuel : Nat}
    (hfuel : s.length < fuel) {c : Cursor} (hcolumn : 0 < c.column)
    (hc : c.rest = indentLines indent false ['\''] s ++ tail) :
    takeQuoted true fuel c = some (s, c.past (indentLines indent false ['\''] s)) := by
  induction s using words_induction (fun ch => isSpace ch || isBreak ch) generalizing fuel c with
  | step word gap rest hword hgap hrest hlast ih =>
    obtain ⟨fuel, rfl⟩ : ∃ n, fuel = n + 1 := ⟨fuel - 1, by omega⟩
    simp only [Bool.or_eq_false_iff] at hword
    have hbreak : ∀ ch ∈ word, isBreak ch = false := fun ch hch => (hword ch hch).2
    have hchars : ∀ ch ∈ word, ReadsAs true ch (inSingleQuotes ch) := fun ch hch =>
      readsAs_inSingleQuotes (isBlank_of_isWritable (hs.left.writable ch hch) (hword ch hch).1)
        (hbreak ch hch)
    rw [indentLines_word hbreak] at hc ⊢
    rw [List.append_assoc] at hc
    by_cases hne : gap = []
    · obtain rfl : rest = [] := hlast hne
      subst hne
      -- a quote behind the closing one would make an escape of both
      have hclose : StopsWord true ('\'' :: tail) := stopsWord_quote fun _ => htail
      rw [takeQuoted_close hcolumn hc (takeQuotedWord_flatMap hchars hclose hc)]
      simp [indentLines]
    · obtain ⟨written, hwritten, hwritten_ne, hblanks, hfolded, hpast⟩ :=
        exists_gap_indentLines hs.right.left hne hgap hrest hindent ['\'']
      have hstop : StopsWord true (written ++ (indentLines indent false ['\''] rest ++ tail)) := by
        obtain ⟨ch, written, rfl⟩ := List.exists_cons_of_ne_nil hwritten_ne
        apply stopsWord_of_blank
        rcases hblanks ch List.mem_cons_self with rfl | hch
        · exact Or.inl (by decide)
        · exact Or.inr hch
      have hless : rest.length < fuel := by
        have hpos := List.length_pos_of_ne_nil hne
        simp only [List.length_append] at hfuel
        omega
      rw [hwritten] at hc ⊢
      rw [List.append_assoc] at hc
      have hcolumn' : 0 < (c.past (word.flatMap inSingleQuotes)).column :=
        Cursor.column_past_pos hcolumn (isBreak_of_mem_inSingleQuotes hbreak)
      have hnext := ih hne hs.right.right hless (hpast _ hcolumn')
        (Cursor.rest_past (Cursor.rest_past hc))
      rw [← Cursor.past_append] at hnext
      rw [takeQuoted_gap hcolumn hc (takeQuotedWord_flatMap hchars hstop hc) hwritten_ne hblanks
        (head?_indentLines hs.right.right hrest indent) hnext, hfolded, ← Cursor.past_append]
      simp

end LayeredSchema.Yaml
