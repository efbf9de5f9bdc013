import LayeredSchema.Proofs.Lists
import LayeredSchema.Yaml.Writer

/-!
# Moving over YAML text

A reader that takes a text from the front leaves the cursor past it, `Cursor.past`, on the same line
if the text has no break, `Cursor.past_of_no_break`. Between words the blanks and breaks of a gap
are passed, `takeGap_eq`, and they stop in front of what starts a token, `StartsToken`.
-/

namespace LayeredSchema.Yaml

/-! ## Characters -/

theorem eq_space_of_isSpace {c : Char} (h : isSpace c = true) : c = ' ' :=
  of_decide_eq_true h

/-- A line ends in one of three characters; other breaks have been turned into line feeds before. -/
theorem eq_of_isBreak {c : Char} (h : isBreak c = true) :
    c = '\n' ∨ c = '\u2028' ∨ c = '\u2029' := by
  unfold isBreak at h
  simpa only [Bool.or_eq_true, decide_eq_true_eq, or_assoc] using h

/-- Blanks and breaks are told apart: a gap is read as runs of the one and of the other. -/
theorem isBlank_of_isBreak {c : Char} (h : isBreak c = true) : isBlank c = false := by
  rcases eq_of_isBreak h with rfl | rfl | rfl <;> decide

/-- The only blank that is written as it is is the space. -/
theorem isBlank_of_isWritable {c : Char} (h : isWritable c = true) (hspace : isSpace c = false) :
    isBlank c = false := by
  have htab : c ≠ '\t' := by
    rintro rfl
    exact absurd h (by decide)
  exact Bool.or_eq_false_iff.mpr ⟨hspace, decide_eq_false htab⟩

/-- What is printable in ASCII is written as it is. -/
theorem isWritable_of_printable {c : Char} (h : 0x20 ≤ c.toNat ∧ c.toNat ≤ 0x7E) :
    isWritable c = true := by
  unfold isWritable
  simp [h]

/-- What is printable in ASCII ends no line. -/
theorem isBreak_of_printable {c : Char} (h : 0x20 ≤ c.toNat ∧ c.toNat ≤ 0x7E) :
    isBreak c = false := by
  rw [Bool.eq_false_iff]
  intro hbreak
  rcases eq_of_isBreak hbreak with rfl | rfl | rfl <;> exact absurd h (by decide)

/-- The writer asks for a break anywhere in a text; proofs ask each character. -/
theorem forall_not_break {text : List Char} (h : text.any isBreak = false) :
    ∀ c ∈ text, isBreak c = false := by
  simpa using h

/-- A text that needs no escapes can be written as it is, in any style. -/
theorem isWritable_of_needsEscapes {s : List Char} (h : needsEscapes s = false) :
    ∀ c ∈ s, isWritable c = true := by
  unfold needsEscapes at h
  rw [Bool.or_eq_false_iff] at h
  simpa using h.1

theorem mem_indentation {indent : Nat} {c : Char} (h : c ∈ indentation indent) : c = ' ' :=
  List.eq_of_mem_replicate h

@[simp]
theorem length_indentation (indent : Nat) : (indentation indent).length = indent :=
  List.length_replicate

/-! ## Cursors -/

namespace Cursor

/-- The cursor behind a text that the rest starts with. -/
def past : List Char → Cursor → Cursor
  | [], c => c
  | ch :: text, c => past text (if isBreak ch then c.nextLine else c.advance 1)

@[simp]
theorem past_nil (c : Cursor) : c.past [] = c := rfl

theorem past_cons_of_break {ch : Char} (h : isBreak ch = true) (text : List Char) (c : Cursor) :
    c.past (ch :: text) = c.nextLine.past text := by
  rw [past, if_pos h]

theorem past_cons_of_not_break {ch : Char} (h : isBreak ch = false) (text : List Char)
    (c : Cursor) : c.past (ch :: text) = (c.advance 1).past text := by
  rw [past, h]
  rfl

/-- Taking one text and then another is taking both. -/
theorem past_append (front back : List Char) (c : Cursor) :
    c.past (front ++ back) = (c.past front).past back := by
  induction front generalizing c with
  | nil => rfl
  | cons ch front ih => exact ih _

theorem rest_advance_one {c : Cursor} {ch : Char} {more : List Char} (h : c.rest = ch :: more) :
    (c.advance 1).rest = more := by
  show c.rest.drop 1 = more
  rw [h]
  rfl

theorem rest_nextLine {c : Cursor} {ch : Char} {more : List Char} (h : c.rest = ch :: more) :
    c.nextLine.rest = more := by
  show c.rest.drop 1 = more
  rw [h]
  rfl

/-- A cursor in front of a text is, past it, in front of what comes behind. -/
theorem rest_past {c : Cursor} {text more : List Char} (h : c.rest = text ++ more) :
    (c.past text).rest = more := by
  induction text generalizing c with
  | nil => exact h
  | cons ch text ih =>
    apply ih
    split
    · exact rest_nextLine h
    · exact rest_advance_one h

/-- Something was taken, so there is less to come. -/
theorem length_past_lt {c : Cursor} {text more : List Char} (h : c.rest = text ++ more)
    (hne : text ≠ []) : (c.past text).rest.length < c.rest.length := by
  have hpos := List.length_pos_of_ne_nil hne
  rw [rest_past h, h, List.length_append]
  omega

/-- What is taken is not given back. -/
theorem length_past_le {c : Cursor} {text more : List Char} (h : c.rest = text ++ more) :
    (c.past text).rest.length ≤ c.rest.length := by
  rw [rest_past h, h, List.length_append]
  exact Nat.le_add_left _ _

@[simp]
theorem advance_zero (c : Cursor) : c.advance 0 = c := rfl

theorem advance_advance (c : Cursor) (m n : Nat) : (c.advance m).advance n = c.advance (m + n) := by
  simp only [advance, List.drop_drop, Nat.add_assoc]

/-- A text without a break is passed on one line, by as many columns as it has characters. -/
theorem past_of_no_break {text : List Char} (h : ∀ ch ∈ text, isBreak ch = false) (c : Cursor) :
    c.past text = c.advance text.length := by
  induction text generalizing c with
  | nil => rfl
  | cons ch text ih =>
    obtain ⟨hch, htext⟩ := List.forall_mem_cons.mp h
    rw [past_cons_of_not_break hch, ih htext, advance_advance, List.length_cons, Nat.add_comm]

/-- On one line every character counts for a column. -/
theorem column_past_of_no_break {text : List Char} (h : ∀ ch ∈ text, isBreak ch = false)
    (c : Cursor) : (c.past text).column = c.column + text.length := by
  rw [past_of_no_break h]
  rfl

/-- Away from the start of a line the cursor stays away from it, as long as there is no break. -/
theorem column_past_pos {c : Cursor} (hcolumn : 0 < c.column) {text : List Char}
    (h : ∀ ch ∈ text, isBreak ch = false) : 0 < (c.past text).column := by
  rw [column_past_of_no_break h]
  exact Nat.add_pos_left hcolumn text.length

/-- Spaces are passed like any other text without a break. -/
theorem past_of_spaces {text : List Char} (h : ∀ ch ∈ text, ch = ' ') (c : Cursor) :
    c.past text = c.advance text.length := by
  apply past_of_no_break
  intro ch hch
  rw [h ch hch]
  decide

/-- An indentation is passed in as many columns as it has. -/
theorem past_indentation (indent : Nat) (c : Cursor) :
    c.past (indentation indent) = c.advance indent := by
  rw [past_of_spaces fun _ => mem_indentation, length_indentation]

/-- The cursor never goes back to an earlier line. -/
theorem line_le_line_past (text : List Char) (c : Cursor) : c.line ≤ (c.past text).line := by
  induction text generalizing c with
  | nil => exact Nat.le_refl _
  | cons ch text ih =>
    refine Nat.le_trans ?_ (ih _)
    split
    · exact Nat.le_succ _
    · exact Nat.le_refl _

/-- Behind a break the cursor is at the start of a line, however many breaks there are. -/
theorem column_past_breaks {breaks : List Char} (h : ∀ ch ∈ breaks, isBreak ch = true)
    (hne : breaks ≠ []) (c : Cursor) : (c.past breaks).column = 0 := by
  induction breaks generalizing c with
  | nil => exact absurd rfl hne
  | cons ch breaks ih =>
    obtain ⟨hch, hbreaks⟩ := List.forall_mem_cons.mp h
    rw [past_cons_of_break hch]
    by_cases hlast : breaks = []
    · rw [hlast]
      rfl
    · exact ih hbreaks hlast c.nextLine

/-- What is indented behind breaks starts in that column. -/
theorem column_past_indentation {breaks : List Char} (h : ∀ ch ∈ breaks, isBreak ch = true)
    (hne : breaks ≠ []) (front : List Char) (indent : Nat) (c : Cursor) :
    (c.past (front ++ (breaks ++ indentation indent))).column = indent := by
  rw [past_append, past_append, past_indentation]
  show (past breaks (c.past front)).column + indent = indent
  rw [column_past_breaks h hne, Nat.zero_add]

/-- Behind a line and its break the indentation of the next line is the column. -/
theorem column_past_line (front : List Char) (indent : Nat) (c : Cursor) :
    (c.past (front ++ '\n' :: indentation indent)).column = indent := by
  have hbreak : ∀ ch ∈ ['\n'], isBreak ch = true := List.forall_mem_singleton.mpr rfl
  exact column_past_indentation hbreak (List.cons_ne_nil _ _) front indent c

/-- A break anywhere in a text leaves the cursor on a later line. -/
theorem line_lt_line_past {b : Char} (h : isBreak b = true) (front back : List Char) (c : Cursor) :
    c.line < (c.past (front ++ b :: back)).line := by
  rw [past_append, past_cons_of_break h]
  have hline : c.line < (c.past front).nextLine.line :=
    Nat.lt_succ_of_le (line_le_line_past front c)
  exact Nat.lt_of_lt_of_le hline (line_le_line_past back _)

/-- A marker is told by its first character. -/
theorem atMarker_of_ne {c : Cursor} {ch mark : Char} {more : List Char} (h : c.rest = ch :: more)
    (hne : ch ≠ mark) : c.atMarker mark = false := by
  unfold atMarker
  rw [h]
  simp [hne]

/-- Markers stand at the start of a line only; anywhere else their characters are text. -/
theorem atMarker_of_column {c : Cursor} (h : 0 < c.column) (mark : Char) :
    c.atMarker mark = false := by
  unfold atMarker
  rw [decide_eq_false (Nat.ne_of_gt h), Bool.false_and, Bool.false_and]

/-- Away from the start of a line neither of the markers is seen. -/
theorem atDocumentMarker_of_column {c : Cursor} (h : 0 < c.column) :
    c.atDocumentMarker = false := by
  unfold atDocumentMarker
  rw [atMarker_of_column h, atMarker_of_column h, Bool.false_or]

end Cursor

/-! ## Gaps -/

/-- A text that neither blanks, breaks, comments nor a byte order mark start, or no text. -/
def StartsToken (cs : List Char) : Prop :=
  ∀ c ∈ cs.head?, isBlank c = false ∧ isBreak c = false ∧ c ≠ '#' ∧ c ≠ '\ufeff'

/-- One character decides whether a token starts, so what comes behind does not matter. -/
theorem startsToken_cons {c : Char}
    (h : isBlank c = false ∧ isBreak c = false ∧ c ≠ '#' ∧ c ≠ '\ufeff') (cs : List Char) :
    StartsToken (c :: cs) := by
  rintro d ⟨⟩
  exact h

/-- What starts a token does so with anything behind it. -/
theorem StartsToken.append {front : List Char} (h : StartsToken front) (hne : front ≠ [])
    (back : List Char) : StartsToken (front ++ back) := by
  obtain ⟨c, front, rfl⟩ := List.exists_cons_of_ne_nil hne
  exact startsToken_cons (h c rfl) (front ++ back)

/-- Where a node inside columns from `limit` on is over: the next token stands to the left of them,
or the text is at its end. -/
structure EndsNode (limit indent : Nat) (next : List Char) : Prop where
  startsToken : StartsToken next
  outside : indent < limit ∨ (next = [] ∧ indent = 0)

namespace EndsNode

variable {limit indent : Nat} {next : List Char}

/-- The further lines of a scalar are indented against what follows it. -/
theorem indent_lt (h : EndsNode limit indent next) : indent < limit - 1 + 2 := by
  rcases h.outside with hless | ⟨-, rfl⟩ <;> omega

theorem head (h : EndsNode limit indent next) {ch : Char} (hch : ch ∈ next.head?) :
    isBlank ch = false ∧ isBreak ch = false :=
  ⟨(h.startsToken ch hch).1, (h.startsToken ch hch).2.1⟩

end EndsNode

/-- The gap with one more blank or break. -/
def Gap.extend (gap : Gap) (c : Char) : Gap :=
  if isBreak c then { blanks := [], breaks := gap.breaks ++ [c] }
  else if gap.breaks = [] then { gap with blanks := gap.blanks ++ [c] }
  else gap

/-- Spaces and breaks are passed up to what is neither. -/
theorem takeGap_eq {limit : Nat} {text more : List Char}
    (htext : ∀ ch ∈ text, ch = ' ' ∨ isBreak ch = true)
    (hmore : ∀ ch ∈ more.head?, isBlank ch = false ∧ isBreak ch = false) {fuel : Nat}
    (hfuel : text.length ≤ fuel) (gap : Gap) {c : Cursor} (hc : c.rest = text ++ more) :
    takeGap limit fuel gap c = some (text.foldl Gap.extend gap, c.past text) := by
  -- each blank or break changes the gap and the cursor, so both are general
  induction text generalizing fuel gap c with
  | nil =>
    cases fuel with
    | zero => rfl
    | succ fuel =>
      rw [takeGap, hc]
      cases more with
      | nil => rfl
      | cons ch more =>
        obtain ⟨hblank, hbreak⟩ := hmore ch rfl
        simp [hblank, hbreak]
  | cons ch text ih =>
    cases fuel with
    | zero => simp at hfuel
    | succ fuel =>
      obtain ⟨hch, hothers⟩ := List.forall_mem_cons.mp htext
      have hless : text.length ≤ fuel := Nat.le_of_succ_le_succ hfuel
      have hnextLine : c.nextLine.rest = text ++ more := Cursor.rest_nextLine hc
      have hadvance : (c.advance 1).rest = text ++ more := Cursor.rest_advance_one hc
      rw [takeGap, hc, List.foldl_cons]
      rcases hch with rfl | hbreak
      · -- a space is kept in front of the first break only
        rw [Cursor.past_cons_of_not_break (by decide)]
        by_cases hgap : gap.breaks = []
        · simpa [Gap.extend, hgap, isBlank, isBreak] using ih hothers hless _ hadvance
        · simpa [Gap.extend, hgap, isBlank, isBreak] using ih hothers hless _ hadvance
      · rw [Cursor.past_cons_of_break hbreak]
        simpa [Gap.extend, hbreak, isBlank_of_isBreak hbreak] using ih hothers hless _ hnextLine

/-- Spaces alone are kept. -/
theorem foldl_extend_spaces {text : List Char} (h : ∀ ch ∈ text, ch = ' ') (blanks : List Char) :
    text.foldl Gap.extend { blanks } = { blanks := blanks ++ text } := by
  induction text generalizing blanks with
  | nil => rw [List.foldl_nil, List.append_nil]
  | cons ch text ih =>
    obtain ⟨rfl, htext⟩ := List.forall_mem_cons.mp h
    have hstep : Gap.extend { blanks } ' ' = { blanks := blanks ++ [' '] } := by
      simp [Gap.extend, isBreak]
    rw [List.foldl_cons, hstep, ih htext, List.append_assoc, List.singleton_append]

/-- Breaks are kept, and the indentation behind them is dropped. -/
theorem foldl_extend_breaks {breaks : List Char} (h : ∀ ch ∈ breaks, isBreak ch = true)
    (hne : breaks ≠ []) (indent : Nat) :
    (breaks ++ indentation indent).foldl Gap.extend {} = { breaks := breaks } := by
  have hbreaks (gap : Gap) : breaks.foldl Gap.extend gap
      = { blanks := if breaks = [] then gap.blanks else [], breaks := gap.breaks ++ breaks } := by
    clear hne
    induction breaks generalizing gap with
    | nil => simp
    | cons ch breaks ih =>
      obtain ⟨hch, hbreaks⟩ := List.forall_mem_cons.mp h
      rw [List.foldl_cons, ih hbreaks]
      simp [Gap.extend, hch]
  have hspaces (gap : Gap) (hgap : gap.breaks ≠ []) :
      (indentation indent).foldl Gap.extend gap = gap := by
    induction indent with
    | zero => rfl
    | succ indent ih =>
      have hstep : gap.extend ' ' = gap := by simp [Gap.extend, isBreak, hgap]
      rw [indentation, List.replicate_succ, List.foldl_cons, hstep]
      exact ih
  rw [List.foldl_append, hbreaks, hspaces _ (by simpa using hne)]
  simp [hne]

end LayeredSchema.Yaml
