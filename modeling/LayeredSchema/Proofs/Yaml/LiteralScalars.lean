import LayeredSchema.Proofs.Yaml.Cursor
import LayeredSchema.Yaml.Token.Block
import Mathlib.Data.List.DropRight

/-!
# Literal blocks are read back

A text is cut into what stands in front of its last breaks, and these. The header tells how the
breaks are kept, `takeBlockHeader_eq`; lines are read with the empty lines behind them,
`takeBlockLines_lines`. The text comes back from the block that is written for it,
`takeBlock_literal`.
-/

namespace LayeredSchema.Yaml

/-! ## The header -/

/-- How the breaks at the end of a text are kept when the rest of it is `front`. -/
def chompingOf (front breaks : List Char) : Chomping :=
  match breaks with
  | [] => .strip
  | [_] => if front = [] then .keep else .clip
  | _ => .keep

/-- The indicator of a chomping. -/
def Chomping.indicator : Chomping → List Char
  | strip => ['-']
  | clip => []
  | keep => ['+']

/-- Whether a text starts with a space or a break. -/
def startsLoosely (s : List Char) : Bool :=
  (s.head?.map fun c => isSpace c || isBreak c).getD false

theorem literalHeader_eq {front breaks : List Char} (hne : front ++ breaks ≠ [])
    (hfront : ∀ c ∈ front.getLast?, isBreak c = false)
    (hbreaks : ∀ c ∈ breaks, isBreak c = true) :
    literalHeader (front ++ breaks)
      = '|' :: ((if startsLoosely (front ++ breaks) then ['2'] else [])
        ++ (chompingOf front breaks).indicator) := by
  have hlast {a : Char} {before : List Char} (hbefore : front = before ++ [a]) :
      isBreak a = false := hfront a (by rw [hbefore]; simp)
  unfold literalHeader
  refine congrArg (fun chomping => '|' :: ((if startsLoosely (front ++ breaks) then ['2'] else [])
    ++ chomping)) ?_
  rw [List.reverse_append]
  rcases List.eq_nil_or_concat' breaks with rfl | ⟨breaks, a, rfl⟩
  · rw [List.append_nil] at hne
    obtain ⟨before, a, rfl⟩ := (List.eq_nil_or_concat' front).resolve_left hne
    cases before using List.reverseRecOn <;> simp [chompingOf, Chomping.indicator, hlast rfl]
  · have ha : isBreak a = true := hbreaks a (by simp)
    rcases List.eq_nil_or_concat' breaks with rfl | ⟨breaks, b, rfl⟩
    · rcases List.eq_nil_or_concat' front with rfl | ⟨before, b, rfl⟩
      · simp [chompingOf, Chomping.indicator, ha]
      · simp [chompingOf, Chomping.indicator, ha, hlast rfl]
    · have hb : isBreak b = true := hbreaks b (by simp)
      cases breaks <;> simp [chompingOf, Chomping.indicator, ha, hb]

/-- The indicators of a header are read up to the end of its line. -/
theorem takeBlockHeader_eq (starts : Bool) (chomping : Chomping) (body : List Char) {c : Cursor}
    (hc : c.rest = (if starts then ['2'] else []) ++ chomping.indicator ++ ['\n'] ++ body) :
    takeBlockHeader c = some (⟨chomping, if starts then some 2 else none⟩,
      c.past ((if starts then ['2'] else []) ++ chomping.indicator ++ ['\n'])) := by
  obtain ⟨rest, line, column⟩ := c
  dsimp only at hc
  subst hc
  cases starts <;> cases chomping <;>
    simp [takeBlockHeader, takeChomping, takeIndentation, Chomping.indicator, Chomping.ofChar?,
      Cursor.advance, Cursor.past, Cursor.skipBlanks, Cursor.skipWhile, Cursor.skipComment,
      isBlank, isBreak, endsLine, Cursor.nextLine]

/-- Every text ends in breaks behind what does not end in a break, although either may be empty. -/
theorem exists_final_breaks (s : List Char) : ∃ front breaks, s = front ++ breaks ∧
    (∀ c ∈ front.getLast?, isBreak c = false) ∧ ∀ c ∈ breaks, isBreak c = true := by
  refine ⟨s.rdropWhile isBreak, s.rtakeWhile isBreak, (List.rdropWhile_append_rtakeWhile ..).symm,
    ?_, fun c hc => List.mem_rtakeWhile_imp hc⟩
  intro c hc
  by_cases hne : s.rdropWhile isBreak = []
  · rw [hne] at hc
    cases hc
  · rw [List.getLast?_eq_some_getLast hne] at hc
    cases hc
    simpa using List.rdropWhile_last_not isBreak s hne

/-- Every text starts with breaks in front of what does not start with a break. -/
theorem exists_first_breaks (s : List Char) : ∃ breaks back, s = breaks ++ back ∧
    (∀ c ∈ breaks, isBreak c = true) ∧ ∀ c ∈ back.head?, isBreak c = false :=
  ⟨s.takeWhile isBreak, s.dropWhile isBreak, List.takeWhile_append_dropWhile.symm,
    fun _ => List.mem_takeWhile_imp, fun _ => eq_false_of_mem_head?_dropWhile⟩

/-! ## Blank lines -/

/-- What follows an indentation that goes on up to `indent` at most: a character of a line, with no
further space unless all the indentation is there. -/
def StartsLine (column indent : Nat) (more : List Char) : Prop :=
  ∀ ch ∈ more.head?, isBreak ch = false ∧ ch ≠ '\t' ∧ (column < indent → ch ≠ ' ')

theorem startsLine_of_not_blank {column indent : Nat} {more : List Char}
    (h : ∀ ch ∈ more.head?, isBlank ch = false ∧ isBreak ch = false) :
    StartsLine column indent more := by
  intro ch hch
  obtain ⟨hblank, hbreak⟩ := h ch hch
  refine ⟨hbreak, ?_, fun _ => ?_⟩
  all_goals
    rintro rfl
    exact absurd hblank (by decide)

/-- A line may start with spaces behind the whole indentation. -/
theorem startsLine_literalLines {s : List Char} (hne : s ≠ [])
    (hwritable : ∀ ch ∈ s, isWritable ch = true) (hfirst : ∀ ch ∈ s.head?, isBreak ch = false)
    (indent : Nat) (more : List Char) :
    StartsLine indent indent (literalLines indent false s ++ more) := by
  obtain ⟨d, s, rfl⟩ := List.exists_cons_of_ne_nil hne
  have hd : isBreak d = false := hfirst d rfl
  rw [literalLines, hd]
  rintro ch ⟨⟩
  refine ⟨hd, ?_, fun hless => absurd hless (Nat.lt_irrefl _)⟩
  rintro rfl
  exact absurd (hwritable '\t' List.mem_cons_self) (by decide)

/-- The indentation of a line is passed as far as it goes. -/
theorem takeBlankLines_indentation {indent column : Nat} (hcolumn : column ≤ indent)
    {more : List Char} (hmore : StartsLine column indent more) (fuel : Nat) (lines : BlankLines)
    {c : Cursor} (hstart : c.column = 0) (hc : c.rest = indentation column ++ more) :
    ∃ widest, takeBlankLines (some indent) (fuel + 1) lines c
      = some (⟨lines.breaks, widest⟩, c.past (indentation column)) := by
  have hspaces : (c.rest.takeWhile (· = ' ')).length
      = column + (more.takeWhile (· = ' ')).length := by
    rw [hc, List.takeWhile_append_of_pos, List.length_append, length_indentation]
    exact fun ch hch => decide_eq_true (mem_indentation hch)
  have hnone : column < indent → (more.takeWhile (· = ' ')).length = 0 := by
    intro hless
    cases more with
    | nil => rfl
    | cons ch more => simp [(hmore ch rfl).2.2 hless]
  -- what is taken is the indentation, unless the line itself starts with more spaces
  have hwidth : min (c.rest.takeWhile (· = ' ')).length (indent - c.column) = column := by
    rw [hspaces, hstart]
    rcases Nat.lt_or_eq_of_le hcolumn with hless | rfl
    · rw [hnone hless]
      omega
    · omega
  have hrest : (c.advance column).rest = more := by
    rw [← Cursor.past_indentation]
    exact Cursor.rest_past hc
  rw [Cursor.past_indentation, takeBlankLines]
  simp only [hwidth, hrest]
  cases more with
  | nil => exact ⟨_, by simp; rfl⟩
  | cons ch more =>
    obtain ⟨hbreak, htab, -⟩ := hmore ch rfl
    exact ⟨_, by simp [hbreak, htab]; rfl⟩

theorem takeBlankLines_break {ch : Char} (hch : isBreak ch = true) {more : List Char}
    (indent fuel : Nat) (lines : BlankLines) {c : Cursor} (hc : c.rest = ch :: more) :
    takeBlankLines (some indent) (fuel + 1) lines c
      = takeBlankLines (some indent) fuel ⟨lines.breaks ++ [ch], max lines.widest c.column⟩
          c.nextLine := by
  have hne (mark : Char) (hmark : isBreak mark = false) : ch ≠ mark :=
    ne_of_apply_ne isBreak (by simp [hch, hmark])
  have hspaces : (c.rest.takeWhile (· = ' ')).length = 0 := by
    rw [hc]
    simp [hne ' ' (by decide)]
  have hwidth : min (c.rest.takeWhile (· = ' ')).length (indent - c.column) = 0 := by
    rw [hspaces, Nat.zero_min]
  rw [takeBlankLines]
  simp only [hwidth, Cursor.advance_zero]
  rw [hc]
  simp [hne '\t' (by decide), hch]

/-- Empty lines are passed, and the indentation of the line behind them as far as it goes. -/
theorem takeBlankLines_breaks {indent column : Nat} (hcolumn : column ≤ indent)
    {breaks more : List Char} (hbreaks : ∀ ch ∈ breaks, isBreak ch = true)
    (hmore : StartsLine column indent more)
    {fuel : Nat} (hfuel : breaks.length < fuel) (lines : BlankLines) {c : Cursor}
    (hstart : c.column = 0) (hc : c.rest = breaks ++ (indentation column ++ more)) :
    ∃ widest, takeBlankLines (some indent) fuel lines c
      = some (⟨lines.breaks ++ breaks, widest⟩, c.past (breaks ++ indentation column)) := by
  obtain ⟨fuel, rfl⟩ : ∃ n, fuel = n + 1 := ⟨fuel - 1, by omega⟩
  -- break by break; the indentation of the next line comes last
  induction breaks generalizing fuel lines c with
  | nil =>
    rw [List.append_nil, List.nil_append]
    exact takeBlankLines_indentation hcolumn hmore fuel lines hstart hc
  | cons ch breaks ih =>
    obtain ⟨hch, hothers⟩ := List.forall_mem_cons.mp hbreaks
    have hrest : c.nextLine.rest = breaks ++ (indentation column ++ more) :=
      Cursor.rest_nextLine hc
    rw [List.length_cons] at hfuel
    obtain ⟨fuel, rfl⟩ : ∃ n, fuel = n + 1 := ⟨fuel - 1, by omega⟩
    obtain ⟨widest, hread⟩ := ih hothers ⟨lines.breaks ++ [ch], max lines.widest c.column⟩
      (c := c.nextLine) rfl hrest fuel (by omega)
    refine ⟨widest, ?_⟩
    rw [takeBlankLines_break hch indent _ lines hc, hread, List.cons_append,
      Cursor.past_cons_of_break hch]
    simp

/-! ## Lines -/

theorem literalLines_line {line : List Char} (h : ∀ ch ∈ line, isBreak ch = false) (indent : Nat)
    (s : List Char) : literalLines indent false (line ++ s)
      = line ++ literalLines indent false s := by
  induction line with
  | nil => rfl
  | cons ch line ih =>
    obtain ⟨hch, hline⟩ := List.forall_mem_cons.mp h
    rw [List.cons_append, literalLines, hch, ih hline]
    rfl

theorem literalLines_breaks {breaks : List Char} (h : ∀ ch ∈ breaks, isBreak ch = true)
    (hne : breaks ≠ []) (indent : Nat) (atBreak : Bool) (s : List Char) :
    literalLines indent atBreak (breaks ++ s) = breaks ++ literalLines indent true s := by
  induction breaks generalizing atBreak with
  | nil => exact absurd rfl hne
  | cons ch breaks ih =>
    obtain ⟨hch, hbreaks⟩ := List.forall_mem_cons.mp h
    rw [List.cons_append, literalLines, if_pos hch]
    by_cases hlast : breaks = []
    · rw [hlast]
      rfl
    · rw [ih hbreaks hlast, List.cons_append]

/-- The indentation stands in front of a line. -/
theorem literalLines_true {s : List Char} (hne : s ≠ []) (h : ∀ ch ∈ s.head?, isBreak ch = false)
    (indent : Nat) :
    literalLines indent true s = indentation indent ++ literalLines indent false s := by
  cases s with
  | nil => exact absurd rfl hne
  | cons ch s =>
    rw [literalLines, literalLines, h ch rfl]
    rfl

/-- Breaks at the start of the lines stand in front of the first indentation. -/
theorem literalLines_true_append {gap s : List Char} (hgap : ∀ ch ∈ gap, isBreak ch = true)
    (hne : s ≠ []) (h : ∀ ch ∈ s.head?, isBreak ch = false) (indent : Nat) :
    literalLines indent true (gap ++ s)
      = gap ++ (indentation indent ++ literalLines indent false s) := by
  by_cases hgap_ne : gap = []
  · rw [hgap_ne, List.nil_append, List.nil_append, literalLines_true hne h]
  · rw [literalLines_breaks hgap hgap_ne, literalLines_true hne h]

/-- Breaks at the end are not indented. -/
theorem literalLines_append_breaks {breaks : List Char} (h : ∀ ch ∈ breaks, isBreak ch = true)
    (indent : Nat) (atBreak : Bool) (s : List Char) :
    literalLines indent atBreak (s ++ breaks) = literalLines indent atBreak s ++ breaks := by
  induction s generalizing atBreak with
  | nil =>
    by_cases hne : breaks = []
    · rw [hne]
      rfl
    · have := literalLines_breaks h hne indent atBreak []
      rw [List.append_nil] at this
      simpa [literalLines] using this
  | cons ch s ih =>
    rw [List.cons_append, literalLines, literalLines, ih, ih]
    split_ifs <;> simp

theorem length_le_length_literalLines (indent : Nat) (atBreak : Bool) (s : List Char) :
    s.length ≤ (literalLines indent atBreak s).length := by
  induction s generalizing atBreak with
  | nil => exact Nat.zero_le _
  | cons ch s ih =>
    rw [literalLines, List.length_cons]
    split_ifs
    · exact Nat.succ_le_succ (ih true)
    all_goals
      have hle := ih false
      simp only [List.length_append, List.length_cons]
      omega

/-- A line is read with its break, the empty lines behind it and the indentation of the next one. -/
theorem takeBlockLines_line (fuel : Nat) (block : BlockText) {indent column : Nat} {c : Cursor}
    {b : Char} {line breaks more : List Char} (hstart : c.column = indent) (hne : line ≠ [])
    (hline : ∀ ch ∈ line, isBreak ch = false) (hbreaks : ∀ ch ∈ b :: breaks, isBreak ch = true)
    (hcolumn : column ≤ indent)
    (hmore : StartsLine column indent more)
    (hc : c.rest = line ++ (b :: breaks ++ (indentation column ++ more))) :
    ∃ spaced, takeBlockLines false indent (fuel + 1) block c = takeBlockLines false indent fuel
      ⟨block.text ++ (block.lineBreak ++ block.blankLines) ++ line, [b], breaks, spaced⟩
      (c.past (line ++ (b :: breaks ++ indentation column))) := by
  obtain ⟨hb, hothers⟩ := List.forall_mem_cons.mp hbreaks
  have htake : (c.rest.takeWhile fun ch => !isBreak ch) = line := by
    rw [hc]
    refine takeWhile_append_of_head? (by simpa using hline) ?_
    rintro ch ⟨⟩
    rw [hb]
    rfl
  have hpast : c.past line = c.advance line.length := Cursor.past_of_no_break hline c
  have hrest : (c.advance line.length).rest = b :: (breaks ++ (indentation column ++ more)) := by
    rw [← hpast]
    exact Cursor.rest_past hc
  have hrest' : (c.advance line.length).nextLine.rest = breaks ++ (indentation column ++ more) :=
    Cursor.rest_nextLine hrest
  have hfuel : breaks.length < (breaks ++ (indentation column ++ more)).length + 1 := by
    rw [List.length_append]
    omega
  have hline_start : (c.advance line.length).nextLine.column = 0 := rfl
  -- behind the line come blank lines and the indentation of the next one
  obtain ⟨widest, hlines⟩ :=
    takeBlankLines_breaks hcolumn hothers hmore hfuel {} hline_start hrest'
  obtain ⟨ch, line', rfl⟩ := List.exists_cons_of_ne_nil hne
  refine ⟨isBlank ch, ?_⟩
  rw [takeBlockLines, Cursor.past_append, List.cons_append, Cursor.past_cons_of_break hb, hpast]
  simp only [htake, hrest, hrest', reduceCtorEq, if_false, hlines]
  simp [hc, hstart, BlockText.joint]

theorem takeBlockLines_stop {folding : Bool} {indent : Nat} {c : Cursor}
    (h : c.rest = [] ∨ c.column ≠ indent) (fuel : Nat) (block : BlockText) :
    takeBlockLines folding indent fuel block c = some (block, c) := by
  cases fuel with
  | zero => rfl
  | succ fuel =>
    rw [takeBlockLines]
    rcases h with hrest | hcolumn
    · rw [hrest]
    · cases c.rest with
      | nil => rfl
      | cons ch rest => exact if_pos hcolumn

/-- The last line is read with its breaks when the next one is not indented. -/
theorem takeBlockLines_last {indent column : Nat} (hcolumn : column < indent) {next : List Char}
    (hnext : ∀ ch ∈ next.head?, isBlank ch = false ∧ isBreak ch = false) {b : Char}
    {breaks line : List Char} (hbreaks : ∀ ch ∈ b :: breaks, isBreak ch = true) (hne : line ≠ [])
    (hline : ∀ ch ∈ line, isBreak ch = false) (fuel : Nat) (block : BlockText) {c : Cursor}
    (hstart : c.column = indent)
    (hc : c.rest = line ++ (b :: breaks ++ (indentation column ++ next))) :
    ∃ spaced, takeBlockLines false indent (fuel + 1) block c
      = some (⟨block.text ++ (block.lineBreak ++ block.blankLines) ++ line, [b], breaks, spaced⟩,
        c.past (line ++ (b :: breaks ++ indentation column))) := by
  obtain ⟨spaced, hread⟩ := takeBlockLines_line fuel block hstart hne hline hbreaks
    (Nat.le_of_lt hcolumn) (startsLine_of_not_blank hnext) hc
  have hend : (c.past (line ++ (b :: breaks ++ indentation column))).column ≠ indent := by
    rw [Cursor.column_past_indentation hbreaks (List.cons_ne_nil _ _)]
    exact Nat.ne_of_lt hcolumn
  exact ⟨spaced, hread.trans (takeBlockLines_stop (Or.inr hend) _ _)⟩

/-- Lines are read up to the next one that is not indented, with the breaks behind the last one. -/
theorem takeBlockLines_lines {indent column : Nat} (hcolumn : column < indent) {next : List Char}
    (hnext : ∀ ch ∈ next.head?, isBlank ch = false ∧ isBreak ch = false) {b : Char}
    {breaks : List Char} (hbreaks : ∀ ch ∈ b :: breaks, isBreak ch = true) {s : List Char}
    (hne : s ≠ []) (hwritable : ∀ ch ∈ s, isWritable ch = true)
    (hfirst : ∀ ch ∈ s.head?, isBreak ch = false) (hlast : ∀ ch ∈ s.getLast?, isBreak ch = false)
    {fuel : Nat} (hfuel : s.length ≤ fuel) (block : BlockText) {c : Cursor}
    (hstart : c.column = indent)
    (hc : c.rest = literalLines indent false s ++ (b :: breaks ++ (indentation column ++ next))) :
    ∃ spaced, takeBlockLines false indent fuel block c
      = some (⟨block.text ++ (block.lineBreak ++ block.blankLines) ++ s, [b], breaks, spaced⟩,
        c.past (literalLines indent false s ++ (b :: breaks ++ indentation column))) := by
  induction s using words_induction isBreak generalizing fuel block c with
  | step line gap rest hline hgap hrest hend ih =>
    have hline_ne : line ≠ [] := first_word_ne_nil hgap hend hne hfirst
    have hpos := List.length_pos_of_ne_nil hline_ne
    rw [List.length_append, List.length_append] at hfuel
    obtain ⟨fuel, rfl⟩ : ∃ n, fuel = n + 1 := ⟨fuel - 1, by omega⟩
    rw [literalLines_line hline, List.append_assoc] at hc
    rw [literalLines_line hline]
    cases gap with
    | nil =>
      obtain rfl : rest = [] := hend rfl
      have hnil : literalLines indent false [] = [] := rfl
      rw [List.append_nil, List.append_nil, hnil, List.append_nil]
      exact takeBlockLines_last hcolumn hnext hbreaks hline_ne hline fuel block hstart hc
    | cons g gap =>
      -- the next line starts where this one did
      have hrest_ne : rest ≠ [] := rest_ne_nil hgap (List.cons_ne_nil g gap) hlast
      have hwritable' : ∀ ch ∈ rest, isWritable ch = true := fun ch hch =>
        hwritable ch (by simp [hch])
      have hlast' : ∀ ch ∈ rest.getLast?, isBreak ch = false := by
        rwa [← List.append_assoc, List.getLast?_append_of_ne_nil _ hrest_ne] at hlast
      rw [literalLines_breaks hgap (by simp), literalLines_true hrest_ne hrest] at hc ⊢
      have hsplit : c.rest = line ++ (g :: gap ++ (indentation indent ++
          (literalLines indent false rest ++ (b :: breaks ++ (indentation column ++ next))))) := by
        rw [hc]
        simp
      obtain ⟨spaced, hread⟩ := takeBlockLines_line fuel block hstart hline_ne hline hgap
        (Nat.le_refl _) (startsLine_literalLines hrest_ne hwritable' hrest indent _) hsplit
      have hpast : (c.past (line ++ (g :: gap ++ indentation indent))).rest
          = literalLines indent false rest ++ (b :: breaks ++ (indentation column ++ next)) :=
        Cursor.rest_past (by rw [hsplit]; simp)
      have hless : rest.length ≤ fuel := by omega
      obtain ⟨spaced', hread'⟩ := ih (by simp) hrest_ne hwritable' hrest hlast' hless
        ⟨block.text ++ (block.lineBreak ++ block.blankLines) ++ line, [g], gap, spaced⟩
        (Cursor.column_past_indentation hgap (by simp) line indent c) hpast
      refine ⟨spaced', ?_⟩
      rw [hread, hread', ← Cursor.past_append]
      simp

/-! ## Blocks -/

/-- The breaks at the end of a block: a text without any gets one. -/
def finalBreaks (breaks : List Char) : List Char :=
  if breaks = [] then ['\n'] else breaks

theorem finalBreaks_eq_cons {breaks : List Char} (h : ∀ ch ∈ breaks, isBreak ch = true) :
    ∃ b more, finalBreaks breaks = b :: more ∧ ∀ ch ∈ b :: more, isBreak ch = true := by
  unfold finalBreaks
  cases breaks with
  | nil => exact ⟨'\n', [], rfl, List.forall_mem_singleton.mpr rfl⟩
  | cons b more => exact ⟨b, more, rfl, h⟩

theorem getLast?_literalLines (indent : Nat) (atBreak : Bool) (s : List Char) (last : Char) :
    (literalLines indent atBreak (s ++ [last])).getLast? = some last := by
  induction s generalizing atBreak with
  | nil =>
    rw [List.nil_append, literalLines]
    split_ifs <;> simp [literalLines]
  | cons ch s ih =>
    rw [List.cons_append, literalLines]
    split_ifs <;> simp [List.getLast?_append, List.getLast?_cons, ih]

/-- The text of a block with the end of its last line. -/
theorem literal_append_lineEnd {front breaks : List Char} (hne : front ++ breaks ≠ [])
    (hfront : ∀ c ∈ front.getLast?, isBreak c = false) (hbreaks : ∀ c ∈ breaks, isBreak c = true)
    (indent : Nat) :
    literal indent (front ++ breaks) ++ lineEnd (literal indent (front ++ breaks))
      = literalHeader (front ++ breaks)
        ++ '\n' :: (literalLines indent true front ++ finalBreaks breaks) := by
  have hend : lineEnd (literal indent (front ++ breaks)) = if breaks = [] then ['\n'] else [] := by
    unfold lineEnd literal
    rw [literalLines_append_breaks hbreaks]
    rcases List.eq_nil_or_concat' breaks with rfl | ⟨breaks, last, rfl⟩
    · rw [List.append_nil] at hne
      obtain ⟨before, last, rfl⟩ := (List.eq_nil_or_concat' front).resolve_left hne
      have hlast : isBreak last = false := hfront last (by simp)
      simp [List.getLast?_append, List.getLast?_cons, getLast?_literalLines, hlast]
    · have hlast : isBreak last = true := hbreaks last (by simp)
      simp [List.getLast?_append, List.getLast?_cons, hlast]
  rw [hend, literal, literalLines_append_breaks hbreaks, finalBreaks]
  split_ifs with hnone
  · simp [hnone]
  · simp

/-- The indentation is taken from the first line if nothing says what it is. -/
theorem takeBlankLines_detect {indent fuel : Nat} {ch : Char} {more : List Char}
    (hblank : isBlank ch = false) (hbreak : isBreak ch = false) {c : Cursor} (hstart : c.column = 0)
    (hc : c.rest = indentation indent ++ ch :: more) :
    takeBlankLines none (fuel + 1) {} c
      = some (⟨[], indent⟩, c.past (indentation indent)) := by
  have hne (mark : Char) (hmark : isBlank mark = true) : ch ≠ mark :=
    ne_of_apply_ne isBlank (by simp [hblank, hmark])
  have hspaces : ∀ d ∈ indentation indent, decide (d = ' ') = true := fun d hd =>
    decide_eq_true (mem_indentation hd)
  have hstop : ∀ d ∈ (ch :: more).head?, decide (d = ' ') = false := by
    rintro d ⟨⟩
    exact decide_eq_false (hne ' ' (by decide))
  have hwidth : (c.rest.takeWhile (· = ' ')).length = indent := by
    rw [hc, takeWhile_append_of_head? hspaces hstop, length_indentation]
  have hrest : (c.advance indent).rest = ch :: more := by
    rw [← Cursor.past_indentation]
    exact Cursor.rest_past hc
  have hcolumn : (c.advance indent).column = indent := by
    show c.column + indent = indent
    rw [hstart, Nat.zero_add]
  rw [takeBlankLines, Cursor.past_indentation]
  simp only [hwidth, hrest, hcolumn]
  simp [hne '\t' (by decide), hbreak]

/-- The indentation in front of the first line is known when the text starts with a space or a
break, and otherwise it is what the line shows. -/
theorem takeBlankLines_first {indent parent : Nat} (hindent : max parent 1 ≤ indent)
    {gap s more : List Char} (hgap : ∀ ch ∈ gap, isBreak ch = true) (hne : s ≠ [])
    (hwritable : ∀ ch ∈ s, isWritable ch = true) (hfirst : ∀ ch ∈ s.head?, isBreak ch = false)
    {c : Cursor} (hstart : c.column = 0)
    (hc : c.rest = gap ++ (indentation indent ++ (literalLines indent false s ++ more))) :
    let known := if startsLoosely (gap ++ s) then some indent else none
    ∃ widest, takeBlankLines known (c.rest.length + 1) {} c
        = some (⟨gap, widest⟩, c.past (gap ++ indentation indent)) ∧
      known.getD (max (max widest parent) 1) = indent := by
  have hmore := startsLine_literalLines hne hwritable hfirst indent more
  obtain ⟨ch, s, rfl⟩ := List.exists_cons_of_ne_nil hne
  have hbreak : isBreak ch = false := hfirst ch rfl
  rw [literalLines, hbreak] at hc hmore
  intro known
  by_cases hloose : startsLoosely (gap ++ ch :: s) = true
  · have hknown : known = some indent := if_pos hloose
    have hfuel : gap.length < c.rest.length + 1 := by
      rw [hc, List.length_append]
      omega
    obtain ⟨widest, hread⟩ :=
      takeBlankLines_breaks (Nat.le_refl indent) hgap hmore hfuel {} hstart hc
    refine ⟨widest, ?_, ?_⟩
    · rw [hknown, hread]
      rfl
    · rw [hknown]
      rfl
  · have hknown : known = none := if_neg hloose
    -- no break stands in front of the first line, and no space at its start
    obtain rfl : gap = [] := by
      cases gap with
      | nil => rfl
      | cons d gap =>
        have hd : isBreak d = true := hgap d List.mem_cons_self
        simp [startsLoosely, hd] at hloose
    have hspace : isSpace ch = false := by
      simpa [startsLoosely, hbreak] using hloose
    have hblank := isBlank_of_isWritable (hwritable ch List.mem_cons_self) hspace
    refine ⟨indent, ?_, ?_⟩
    · rw [hknown, takeBlankLines_detect hblank hbreak hstart hc]
      rfl
    · rw [hknown, Option.getD_none]
      omega

/-- A block is read part by part. -/
theorem takeBlock_eq {folding : Bool} {parent indent : Nat} {header : BlockHeader}
    {known : Option Nat} {lines : BlankLines} {block : BlockText} {c c₁ c₂ c₃ : Cursor}
    (hheader : takeBlockHeader c = some (header, c₁))
    (hknown : header.indentation.map (fun n => parent - 1 + n) = known)
    (hlines : takeBlankLines known (c₁.rest.length + 1) {} c₁ = some (lines, c₂))
    (hindent : known.getD (max (max lines.widest parent) 1) = indent)
    (hblock : takeBlockLines folding indent (c₂.rest.length + 1) { blankLines := lines.breaks } c₂
      = some (block, c₃)) :
    takeBlock folding parent c = some (block.chomped header.chomping, c₃) := by
  simp only [takeBlock, Option.bind_eq_bind, hheader, Option.bind_some, hknown, hlines, hindent,
    hblock]

/-- The chomping leaves the breaks that the text has. -/
theorem chomped_eq {front breaks more : List Char} {b : Char} (hne : front ≠ [])
    (hfinal : finalBreaks breaks = b :: more) (spaced : Bool) :
    BlockText.chomped ⟨front, [b], more, spaced⟩ (chompingOf front breaks) = front ++ breaks := by
  unfold finalBreaks at hfinal
  split_ifs at hfinal with hnone
  · rw [hnone]
    exact (List.append_nil front).symm
  · subst hfinal
    cases more with
    | nil => simp [chompingOf, hne, BlockText.chomped]
    | cons _ _ => simp [chompingOf, BlockText.chomped]

/-- Breaks without a line are kept as blank lines. -/
theorem takeBlock_breaks {breaks : List Char} (hne : breaks ≠ [])
    (hbreaks : ∀ ch ∈ breaks, isBreak ch = true) {parent column : Nat} {next : List Char}
    (hend : EndsNode parent column next) {c c₁ : Cursor}
    (hheader : takeBlockHeader c = some (⟨.keep, some 2⟩, c₁)) (hstart : c₁.column = 0)
    (hc : c₁.rest = breaks ++ (indentation column ++ next)) :
    takeBlock false parent c = some (breaks, c₁.past (breaks ++ indentation column)) := by
  have hcolumn := hend.indent_lt
  have hfuel : breaks.length < c₁.rest.length + 1 := by
    rw [hc, List.length_append]
    omega
  obtain ⟨widest, hlines⟩ := takeBlankLines_breaks (Nat.le_of_lt hcolumn) hbreaks
    (startsLine_of_not_blank fun _ => hend.head) hfuel {} hstart hc
  have hstop : (c₁.past (breaks ++ indentation column)).column ≠ parent - 1 + 2 := by
    have := Cursor.column_past_indentation hbreaks hne [] column c₁
    rw [List.nil_append] at this
    rw [this]
    exact Nat.ne_of_lt hcolumn
  exact takeBlock_eq hheader rfl hlines rfl (takeBlockLines_stop (Or.inr hstop) _ _)

/-- Lines are kept with the breaks in front of them and behind them. -/
theorem takeBlock_lines {gap s breaks : List Char} (hgap : ∀ ch ∈ gap, isBreak ch = true)
    (hne : s ≠ []) (hwritable : ∀ ch ∈ s, isWritable ch = true)
    (hfirst : ∀ ch ∈ s.head?, isBreak ch = false) (hlast : ∀ ch ∈ s.getLast?, isBreak ch = false)
    (hbreaks : ∀ ch ∈ breaks, isBreak ch = true) {parent column : Nat} {next : List Char}
    (hend : EndsNode parent column next) {c c₁ : Cursor}
    (hheader : takeBlockHeader c = some (⟨chompingOf (gap ++ s) breaks,
      if startsLoosely (gap ++ s) then some 2 else none⟩, c₁)) (hstart : c₁.column = 0)
    (hc : c₁.rest = gap ++ (indentation (parent - 1 + 2) ++ (literalLines (parent - 1 + 2) false s
      ++ (finalBreaks breaks ++ (indentation column ++ next))))) :
    takeBlock false parent c = some (gap ++ (s ++ breaks),
      c₁.past (gap ++ (indentation (parent - 1 + 2) ++ (literalLines (parent - 1 + 2) false s
        ++ (finalBreaks breaks ++ indentation column))))) := by
  have hcolumn := hend.indent_lt
  have hindent : max parent 1 ≤ parent - 1 + 2 := by omega
  have hknown : (if startsLoosely (gap ++ s) then some 2 else none).map (fun n => parent - 1 + n)
      = if startsLoosely (gap ++ s) then some (parent - 1 + 2) else none := by
    split <;> rfl
  generalize parent - 1 + 2 = indent at *
  obtain ⟨b, more, hfinal, hfinal_breaks⟩ := finalBreaks_eq_cons hbreaks
  obtain ⟨widest, hlines, hwidest⟩ :=
    takeBlankLines_first hindent hgap hne hwritable hfirst hstart hc
  have hstart' : (c₁.past (gap ++ indentation indent)).column = indent := by
    by_cases hgap_ne : gap = []
    · rw [hgap_ne, List.nil_append, Cursor.past_indentation]
      show c₁.column + indent = indent
      rw [hstart, Nat.zero_add]
    · exact Cursor.column_past_indentation hgap hgap_ne [] indent c₁
  have hrest : (c₁.past (gap ++ indentation indent)).rest = literalLines indent false s
      ++ (b :: more ++ (indentation column ++ next)) := by
    rw [← hfinal]
    exact Cursor.rest_past (by rw [hc, List.append_assoc])
  have hfuel : s.length ≤ (c₁.past (gap ++ indentation indent)).rest.length + 1 := by
    have hle := length_le_length_literalLines indent false s
    rw [hrest, List.length_append]
    omega
  -- the lines come behind the gap; its breaks are blank lines in front of them
  obtain ⟨spaced, hblock⟩ := takeBlockLines_lines hcolumn (fun _ => hend.head) hfinal_breaks hne
    hwritable hfirst hlast hfuel { blankLines := gap } hstart' hrest
  rw [takeBlock_eq hheader hknown hlines hwidest hblock, ← Cursor.past_append, hfinal]
  have hfront : gap ++ s ≠ [] := by simp [hne]
  simpa using chomped_eq hfront hfinal spaced

/-- A literal block is read back. -/
theorem takeBlock_literal {front breaks : List Char} (hne : front ++ breaks ≠ [])
    (hfront : ∀ c ∈ front.getLast?, isBreak c = false) (hbreaks : ∀ c ∈ breaks, isBreak c = true)
    (hwritable : ∀ c ∈ front, isWritable c = true) {parent column : Nat} {next : List Char}
    (hend : EndsNode parent column next) {header : List Char}
    (hheader : header = (if startsLoosely (front ++ breaks) then ['2'] else [])
      ++ (chompingOf front breaks).indicator ++ ['\n']) {c : Cursor}
    (hc : c.rest = header ++ (literalLines (parent - 1 + 2) true front
      ++ (finalBreaks breaks ++ (indentation column ++ next)))) :
    takeBlock false parent c = some (front ++ breaks,
      c.past (header ++ (literalLines (parent - 1 + 2) true front
        ++ (finalBreaks breaks ++ indentation column)))) := by
  have hread : takeBlockHeader c = some (⟨chompingOf front breaks,
      if startsLoosely (front ++ breaks) then some 2 else none⟩, c.past header) := by
    rw [hheader] at hc ⊢
    exact takeBlockHeader_eq _ _ _ hc
  have hrest := Cursor.rest_past hc
  have hstart : (c.past header).column = 0 := by
    rw [hheader, Cursor.past_append]
    rfl
  rw [Cursor.past_append]
  -- the breaks at the start are blank lines in front of the first line
  obtain ⟨gap, s, rfl, hgap, hfirst⟩ := exists_first_breaks front
  by_cases hs : s = []
  · subst hs
    -- a text of breaks alone has nothing in front of them
    obtain rfl : gap = [] := by
      by_contra hgap_ne
      exact rest_ne_nil (l := []) hgap hgap_ne hfront rfl
    obtain ⟨b, more, rfl⟩ := List.exists_cons_of_ne_nil (show breaks ≠ [] from hne)
    have hb : isBreak b = true := hbreaks b List.mem_cons_self
    have hread' : takeBlockHeader c = some (⟨.keep, some 2⟩, c.past header) := by
      rw [hread]
      cases more <;> simp [startsLoosely, hb, chompingOf]
    have hblock := takeBlock_breaks (by simp) hbreaks hend hread' hstart hrest
    simpa [literalLines, finalBreaks] using hblock
  · have hlast : ∀ ch ∈ s.getLast?, isBreak ch = false := by
      rwa [List.getLast?_append_of_ne_nil _ hs] at hfront
    have hloose : startsLoosely (gap ++ s ++ breaks) = startsLoosely (gap ++ s) := by
      unfold startsLoosely
      rw [List.head?_append_of_ne_nil (gap ++ s) (by simp [hs])]
    rw [hloose] at hread
    rw [literalLines_true_append hgap hs hfirst] at hrest ⊢
    simp only [List.append_assoc] at hrest ⊢
    exact takeBlock_lines hgap hs (fun ch hch => hwritable ch (List.mem_append_right _ hch)) hfirst
      hlast hbreaks hend hread hstart hrest

end LayeredSchema.Yaml
