import LayeredSchema.Proofs.Yaml.Cursor
import LayeredSchema.Yaml.Token.Scan

/-!
# Runs of the scanner

Between two tokens the scanner skips blanks, gives up what can no longer be a key and closes blocks,
`Scanner.settle`; then it reads the next token, `Scanner.resume`. One state leads to another,
`Scanner.Leads`, when reading goes on from the one as it goes on from the other, with no more tokens
in between than characters. Single tokens give steps, `Scanner.Leads.step`, and steps are put
together by `Scanner.Leads.trans`.
-/

namespace LayeredSchema.Yaml.Scanner

/-! ## Runs -/

/-- What is done between two tokens. -/
def settle (s : Scanner) : Option Scanner :=
  (s.skipToToken (s.cursor.rest.length + 1)).dropStaleKeys.map fun s =>
    s.closeBlocks s.cursor.column

/-- Reading from a state in front of a token or at the end of the text. -/
def resume (fuel : Nat) (s : Scanner) : Option Scanner :=
  if s.cursor.rest = [] then s.closeAllBlocks.dropKey else s.fetchHere.bind (run fuel)

/-- Closing blocks takes no character. -/
@[simp]
theorem cursor_closeBlocks (s : Scanner) (column : Nat) :
    (s.closeBlocks column).cursor = s.cursor := by
  unfold closeBlocks closeWhile
  split <;> rfl

/-- At the end of a text all blocks are closed, each with a token. -/
theorem closeAllBlocks_of_not_inFlow {s : Scanner} (h : s.inFlow = false) :
    s.closeAllBlocks = { s with
      columns := []
      reversed := List.replicate s.columns.length Token.blockEnd ++ s.reversed } := by
  have htake : s.columns.takeWhile (fun _ => true) = s.columns :=
    List.takeWhile_eq_self_iff.mpr fun _ _ => rfl
  have hdrop : s.columns.dropWhile (fun _ => true) = [] :=
    List.dropWhile_eq_nil_iff.mpr fun _ _ => rfl
  unfold closeAllBlocks closeWhile
  simp [h, htake, hdrop, List.map_const']

/-- Closing some blocks and then all of them closes all of them. -/
theorem closeAllBlocks_closeBlocks (s : Scanner) (column : Nat) :
    (s.closeBlocks column).closeAllBlocks = s.closeAllBlocks := by
  cases hflow : s.inFlow with
  | true => rw [closeBlocks, if_pos hflow]
  | false =>
    have hclosed : (s.closeBlocks column).inFlow = false := by
      rw [closeBlocks, hflow]
      exact hflow
    -- the blocks that are closed first and those that are closed then are all of them
    have hlength := congrArg List.length
      (List.takeWhile_append_dropWhile (p := fun block => decide (column < block)) (l := s.columns))
    rw [List.length_append] at hlength
    rw [closeAllBlocks_of_not_inFlow hclosed, closeAllBlocks_of_not_inFlow hflow, closeBlocks,
      hflow, ← hlength, Nat.add_comm]
    simp [closeWhile, List.map_const', ← List.append_assoc]

/-- Reading is done token by token, with what stands between tokens in front of each. -/
theorem run_succ (fuel : Nat) (s : Scanner) : run (fuel + 1) s = s.settle.bind (resume fuel) := by
  unfold settle
  rw [run]
  cases (s.skipToToken (s.cursor.rest.length + 1)).dropStaleKeys with
  | none => rfl
  | some t =>
    simp only [Option.bind_eq_bind, Option.bind_some, Option.map_some, resume, cursor_closeBlocks,
      closeAllBlocks_closeBlocks]

/-- Reading goes on from one state as from another one further on, with no more tokens between them
than characters. -/
def Leads (s t : Scanner) : Prop :=
  ∃ count, count + t.cursor.rest.length ≤ s.cursor.rest.length ∧
    ∀ fuel, resume (count + fuel) s = resume fuel t

/-- Where one state leads to another and that one further on, the first one leads there. -/
theorem Leads.trans {s t u : Scanner} (hst : Leads s t) (htu : Leads t u) : Leads s u := by
  obtain ⟨m, hm, hs⟩ := hst
  obtain ⟨n, hn, ht⟩ := htu
  refine ⟨m + n, by omega, fun fuel => ?_⟩
  rw [Nat.add_assoc, hs, ht]

/-- Reading one token is a step. -/
theorem Leads.step {s t u : Scanner} (hfetch : s.fetchHere = some t) (hsettle : t.settle = some u)
    (hless : u.cursor.rest.length < s.cursor.rest.length) : Leads s u := by
  refine ⟨1, by omega, fun fuel => ?_⟩
  have hrest : s.cursor.rest ≠ [] := List.ne_nil_of_length_pos (by omega)
  rw [resume, if_neg hrest, hfetch, Option.bind_some, Nat.add_comm, run_succ, hsettle,
    Option.bind_some]

/-- At the end of the text only what closing all blocks makes of a state matters. -/
theorem Leads.of_end {s t : Scanner} (hs : s.cursor.rest = []) (ht : t.cursor.rest = [])
    (h : s.closeAllBlocks = t.closeAllBlocks) : Leads s t := by
  refine ⟨0, by simp [hs, ht], fun fuel => ?_⟩
  rw [Nat.zero_add, resume, resume, if_pos hs, if_pos ht, h]

/-- A run that leads to the end of the text succeeds with all blocks closed. -/
theorem run_of_leads {s t u result : Scanner} (hsettle : s.settle = some t) (h : Leads t u)
    (hless : t.cursor.rest.length ≤ s.cursor.rest.length) (hu : u.cursor.rest = [])
    (hresult : u.closeAllBlocks.dropKey = some result) :
    run (s.cursor.rest.length + 1) s = some result := by
  -- there is fuel left, since no more tokens than characters were read
  obtain ⟨count, hcount, hlead⟩ := h
  obtain ⟨fuel, hfuel⟩ : ∃ fuel, s.cursor.rest.length = count + fuel :=
    ⟨s.cursor.rest.length - count, by omega⟩
  rw [run_succ, hsettle, Option.bind_some, hfuel, hlead, resume, if_pos hu, hresult]

/-! ## States in block context -/

/-- The scanner outside of flow collections, with the place of a possible key if there is one. -/
def inBlock (key : Option KeyPlace) (keyAllowed : Bool) (c : Cursor) (columns : List Nat)
    (reversed : List Token) : Scanner :=
  { cursor := c, columns, keyAllowed, keys := [key], reversed }

section

variable (key : Option KeyPlace) (keyAllowed : Bool) (c : Cursor) (columns : List Nat)
  (reversed : List Token)

@[simp]
theorem cursor_inBlock : (inBlock key keyAllowed c columns reversed).cursor = c := rfl

@[simp]
theorem columns_inBlock : (inBlock key keyAllowed c columns reversed).columns = columns := rfl

@[simp]
theorem keyAllowed_inBlock :
    (inBlock key keyAllowed c columns reversed).keyAllowed = keyAllowed := rfl

@[simp]
theorem reversed_inBlock : (inBlock key keyAllowed c columns reversed).reversed = reversed := rfl

@[simp]
theorem inFlow_inBlock : (inBlock key keyAllowed c columns reversed).inFlow = false := rfl

end

/-- Nothing is closed in a column inside the innermost block. -/
theorem closeBlocks_of_le {s : Scanner} {column : Nat}
    (h : ∀ block ∈ s.columns.head?, block ≤ column) : s.closeBlocks column = s := by
  have htake : s.columns.takeWhile (fun block => column < block) = [] := by
    cases hcolumns : s.columns with
    | nil => rfl
    | cons block blocks => simp [h block (by rw [hcolumns]; rfl)]
  have hdrop : s.columns.dropWhile (fun block => column < block) = s.columns := by
    cases hcolumns : s.columns with
    | nil => rfl
    | cons block blocks => simp [h block (by rw [hcolumns]; rfl)]
  unfold closeBlocks closeWhile
  rw [htake, hdrop]
  simp

/-- What stands inside of a block does not close it. -/
theorem closeBlocks_inside {key : Option KeyPlace} {keyAllowed : Bool} {c : Cursor}
    {block column : Nat} (h : block ≤ column) (outer : List Nat) (reversed : List Token) :
    (inBlock key keyAllowed c (block :: outer) reversed).closeBlocks column
      = inBlock key keyAllowed c (block :: outer) reversed := by
  apply closeBlocks_of_le
  rintro _ ⟨⟩
  exact h

/-- In a column outside of the innermost block that block is closed. -/
theorem closeBlocks_outside {key : Option KeyPlace} {keyAllowed : Bool} {c : Cursor}
    {block column : Nat} (h : column < block) (outer : List Nat) (reversed : List Token) :
    (inBlock key keyAllowed c (block :: outer) reversed).closeBlocks column
      = (inBlock key keyAllowed c outer (.blockEnd :: reversed)).closeBlocks column := by
  simp [closeBlocks, closeWhile, inBlock, inFlow, h, List.map_const', List.replicate_succ',
    ← List.replicate_succ]

/-! ## Blanks between tokens -/

/-- Spaces in front of a token are skipped, and no comment is taken for one. -/
theorem skipBlanks_eq {c : Cursor} {indent : Nat} {more : List Char} (hmore : StartsToken more)
    (hrest : c.rest = indentation indent ++ more) (tabs : Bool) :
    (c.skipWhile fun ch => ch = ' ' || (tabs && ch = '\t')).skipComment
      = c.past (indentation indent) := by
  have hspaces : ∀ ch ∈ indentation indent, (ch = ' ' || (tabs && ch = '\t')) = true := by
    intro ch hch
    rw [mem_indentation hch]
    rfl
  have hstop : ∀ ch ∈ more.head?, (ch = ' ' || (tabs && ch = '\t')) = false := by
    intro ch hch
    obtain ⟨hblank, -⟩ := hmore ch hch
    unfold isBlank at hblank
    rw [Bool.or_eq_false_iff] at hblank
    simp [hblank.1, hblank.2]
  have hwidth : (c.rest.takeWhile fun ch => ch = ' ' || (tabs && ch = '\t')).length = indent := by
    rw [hrest, takeWhile_append_of_head? hspaces hstop, length_indentation]
  have hcomment : (c.past (indentation indent)).rest.head? ≠ some '#' := by
    rw [Cursor.rest_past hrest]
    exact fun hhead => (hmore '#' hhead).2.2.1 rfl
  rw [Cursor.skipWhile, hwidth, ← Cursor.past_indentation, Cursor.skipComment, if_neg hcomment]

/-- No byte order mark is skipped in front of indentation. -/
theorem head?_ne_mark {indent : Nat} {more : List Char} (hmore : StartsToken more) :
    (indentation indent ++ more).head? ≠ some '\ufeff' := by
  cases indent with
  | zero => exact fun hhead => (hmore '\ufeff' hhead).2.2.2 rfl
  | succ indent =>
    rw [indentation, List.replicate_succ]
    intro hhead
    exact absurd (Option.some.inj hhead) (by decide)

/-- In front of a token on the same line nothing but spaces is skipped. -/
theorem skipToToken_spaces {s : Scanner} (indent : Nat) {more : List Char}
    (hmore : StartsToken more) (hrest : s.cursor.rest = indentation indent ++ more) (fuel : Nat) :
    skipToToken (fuel + 1) s = { s with cursor := s.cursor.past (indentation indent) } := by
  have hmark : ¬(s.cursor.column = 0 ∧ s.cursor.rest.head? = some '\ufeff') := by
    rw [hrest]
    exact fun h => head?_ne_mark hmore h.2
  rw [skipToToken, if_neg hmark, skipBlanks_eq hmore hrest, Cursor.rest_past hrest]
  cases more with
  | nil => rfl
  | cons ch more =>
    obtain ⟨-, hbreak, -⟩ := hmore ch rfl
    simp [hbreak]

/-- In front of a token on the next line a break is skipped too, and a key may start there. -/
theorem skipToToken_line {s : Scanner} (hflow : s.inFlow = false) {indent : Nat} {more : List Char}
    (hmore : StartsToken more) (hrest : s.cursor.rest = '\n' :: (indentation indent ++ more))
    (fuel : Nat) :
    skipToToken (fuel + 2) s = { s with
      cursor := s.cursor.past ('\n' :: indentation indent)
      keyAllowed := true } := by
  have hmark : ¬(s.cursor.column = 0 ∧ s.cursor.rest.head? = some '\ufeff') := by simp [hrest]
  have hstay (tabs : Bool) :
      (s.cursor.skipWhile fun ch => ch = ' ' || (tabs && ch = '\t')).skipComment = s.cursor := by
    simp [Cursor.skipWhile, Cursor.skipComment, hrest]
  have hnext : s.cursor.nextLine.rest = indentation indent ++ more := Cursor.rest_nextLine hrest
  rw [skipToToken, if_neg hmark, hstay, hrest]
  simp only [hflow, Bool.not_false, Bool.or_true]
  rw [if_pos (by decide), skipToToken_spaces indent hmore hnext]
  rfl

/-! ## Possible keys -/

/-- Possible keys within reach stay. -/
theorem dropStaleKeys_of_fresh {s : Scanner}
    (h : ∀ key ∈ s.keys, ∀ place ∈ key, s.isStale place = false) : s.dropStaleKeys = some s := by
  have hkeys : (s.keys.map fun key => key.filter fun place => !s.isStale place) = s.keys := by
    refine (List.map_congr_left fun key hkey => ?_).trans s.keys.map_id
    cases key with
    | none => rfl
    | some place => simp [h _ hkey place rfl]
  have hnone : (s.keys.any fun key => key.any fun place => s.isStale place && place.required)
      = false := by
    rw [List.any_eq_false]
    intro key hkey
    cases key with
    | none => simp
    | some place => simp [h _ hkey place rfl]
  unfold dropStaleKeys
  dsimp only
  rw [hnone, hkeys]
  rfl

/-- A possible key on an earlier line is given up. -/
theorem dropStaleKeys_of_line {s : Scanner} {place : KeyPlace} (h : s.keys = [some place])
    (hrequired : place.required = false) (hline : place.line < s.cursor.line) :
    s.dropStaleKeys = some { s with keys := [none] } := by
  have hstale : s.isStale place = true := by simp [isStale, hline]
  simp [dropStaleKeys, h, hrequired, hstale]

/-! ## In front of the next token -/

section

variable (key : Option KeyPlace) (keyAllowed : Bool) (columns : List Nat) (reversed : List Token)
  {c : Cursor} {indent : Nat} {more : List Char}

/-- A node that turned out to be no key is forgotten once its line is over. -/
theorem settle_of_line {s : Scanner} {key : Option KeyPlace} {keyAllowed : Bool}
    {columns : List Nat} {reversed : List Token}
    (hskip : s.skipToToken (s.cursor.rest.length + 1) = inBlock key keyAllowed c columns reversed)
    (hkey : ∀ place ∈ key, place.required = false ∧ place.line < c.line) :
    s.settle = some ((inBlock none keyAllowed c columns reversed).closeBlocks c.column) := by
  unfold settle
  rw [hskip]
  cases key with
  | none => rw [dropStaleKeys_of_fresh (by simp [inBlock])]; rfl
  | some place =>
    obtain ⟨hrequired, hline⟩ := hkey place rfl
    rw [dropStaleKeys_of_line rfl hrequired hline]
    rfl

/-- Where a token starts nothing is skipped. -/
theorem settle_here (hmore : StartsToken c.rest)
    (hkey : ∀ place ∈ key, place.required = false ∧ place.line < c.line) :
    (inBlock key keyAllowed c columns reversed).settle
      = some ((inBlock none keyAllowed c columns reversed).closeBlocks c.column) := by
  have hskip : skipToToken (c.rest.length + 1) (inBlock key keyAllowed c columns reversed)
      = inBlock key keyAllowed c columns reversed := skipToToken_spaces 0 hmore rfl _
  exact settle_of_line hskip hkey

/-- Spaces are passed up to the next token. -/
theorem settle_spaces (hmore : StartsToken more) (hrest : c.rest = indentation indent ++ more)
    (hcolumn : ∀ block ∈ columns.head?, block ≤ c.column + indent) :
    (inBlock none keyAllowed c columns reversed).settle
      = some (inBlock none keyAllowed (c.past (indentation indent)) columns reversed) := by
  have hskip : skipToToken (c.rest.length + 1) (inBlock none keyAllowed c columns reversed)
      = inBlock none keyAllowed (c.past (indentation indent)) columns reversed :=
    skipToToken_spaces indent hmore hrest _
  rw [settle_of_line hskip nofun, closeBlocks_of_le]
  rw [Cursor.past_indentation]
  exact hcolumn

/-- On the next line a key may start. -/
theorem settle_line (hmore : StartsToken more)
    (hrest : c.rest = '\n' :: (indentation indent ++ more))
    (hkey : ∀ place ∈ key, place.required = false ∧ place.line ≤ c.line) :
    (inBlock key keyAllowed c columns reversed).settle
      = some ((inBlock none true (c.past ('\n' :: indentation indent)) columns
        reversed).closeBlocks indent) := by
  have hskip : skipToToken (c.rest.length + 1) (inBlock key keyAllowed c columns reversed)
      = inBlock key true (c.past ('\n' :: indentation indent)) columns reversed := by
    have hfuel : c.rest.length + 1 = (indentation indent ++ more).length + 2 := by simp [hrest]
    rw [hfuel]
    exact skipToToken_line rfl hmore hrest _
  have hline : c.line < (c.past ('\n' :: indentation indent)).line :=
    Cursor.line_lt_line_past (by decide) [] _ c
  have hcolumn : (c.past ('\n' :: indentation indent)).column = indent :=
    Cursor.column_past_line [] indent c
  rw [settle_of_line hskip fun place hplace =>
    ⟨(hkey place hplace).1, Nat.lt_of_le_of_lt (hkey place hplace).2 hline⟩, hcolumn]

end

end LayeredSchema.Yaml.Scanner
