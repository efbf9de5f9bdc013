import LayeredSchema.Proofs.Yaml.LiteralScalars
import LayeredSchema.Proofs.Yaml.PlainScalars
import LayeredSchema.Proofs.Yaml.QuotedScalars
import LayeredSchema.Proofs.Yaml.Scanning

/-!
# Scalars as tokens

The style of a string suits it, `suits_styleOf`: read in that style the text comes back. In front of
a colon the scanner then gives one token for what is written, `Scanner.fetchHere_key`, and at the
end of a line it goes on with the next line, `Scanner.leads_scalar`, where blocks may be closed.
-/

namespace LayeredSchema.Yaml

/-! ## Styles -/

/-- A text in a style; further lines have the given indentation. -/
def writeStyled (indent : Nat) (style : ScalarStyle) (s : List Char) : List Char :=
  match style with
  | .plain => s
  | .singleQuoted => singleQuoted indent s
  | .literal => literal indent s
  | _ => doubleQuoted s

/-- A string is written in its style. -/
theorem writeString_eq (indent : Nat) (s : String) :
    writeString indent s = writeStyled indent (styleOf s) s.toList := by
  unfold writeString writeStyled
  cases styleOf s <;> rfl

/-- A style in which a text keeps all its characters. -/
inductive Suits : ScalarStyle → List Char → Prop where
  | plain {s : List Char} (h : ReadsPlain s) : Suits .plain s
  | singleQuoted {s : List Char} (h : KeepsGaps s) : Suits .singleQuoted s
  | doubleQuoted (s : List Char) : Suits .doubleQuoted s
  | literal {s : List Char} (hne : s ≠ []) (hwritable : ∀ c ∈ s, isWritable c = true) :
      Suits .literal s

/-- The writer allows single quotes for a text only if its gaps are kept between them. -/
theorem keepsGaps_of_allowsSingleQuotes {s : List Char} (h : allowsSingleQuotes s = true)
    (hline : '\n' ∉ s) : KeepsGaps s := by
  unfold allowsSingleQuotes at h
  rw [Bool.not_eq_true', Bool.or_eq_false_iff] at h
  obtain ⟨hescapes, hbreak_space⟩ := h
  have hspace_break := hescapes
  unfold needsEscapes at hspace_break
  rw [Bool.or_eq_false_iff] at hspace_break
  exact ⟨isWritable_of_needsEscapes hescapes, hspace_break.2, hbreak_space, hline⟩

/-- The style of a string suits it. -/
theorem suits_styleOf (s : String) : Suits (styleOf s) s.toList := by
  have hquoted (hline : '\n' ∉ s.toList) :
      Suits (if allowsSingleQuotes s.toList then .singleQuoted else .doubleQuoted) s.toList := by
    split
    · next hallowed => exact .singleQuoted (keepsGaps_of_allowsSingleQuotes hallowed hline)
    · exact .doubleQuoted _
  unfold styleOf
  dsimp only
  split
  · next hline =>
    split
    · next hallowed =>
      unfold allowsLiteral at hallowed
      rw [Bool.not_eq_true', Bool.or_eq_false_iff] at hallowed
      refine .literal ?_ (isWritable_of_needsEscapes hallowed.1)
      intro hnil
      rw [hnil] at hline
      cases hline
    · exact .doubleQuoted _
  · next hline =>
    have hline : '\n' ∉ s.toList := by simpa using hline
    split
    · exact hquoted hline
    · next hambiguous =>
      split
      · next hallowed =>
        refine .plain ⟨?_, hallowed⟩
        -- the empty text is ambiguous
        intro hnil
        obtain rfl : s = "" := String.toList_eq_nil_iff.mp hnil
        exact hambiguous (by decide)
      · exact hquoted hline

/-- In a style that suits it even the empty text is written as something. -/
theorem writeStyled_ne_nil {style : ScalarStyle} {s : List Char} (h : Suits style s)
    (indent : Nat) : writeStyled indent style s ≠ [] := by
  cases h with
  | plain h => exact h.ne_nil
  | singleQuoted _ => exact List.cons_ne_nil _ _
  | doubleQuoted _ => exact List.cons_ne_nil _ _
  | literal _ _ => exact List.cons_ne_nil _ _

/-- A scalar starts with the first character of its text, a quote or a bar. -/
theorem startsToken_writeStyled {style : ScalarStyle} {s : List Char} (h : Suits style s)
    (indent : Nat) : StartsToken (writeStyled indent style s) := by
  cases h with
  | plain h =>
    have hwords : PlainWords 'a' s := h.plainWords (by decide) (by decide)
    intro ch hch
    have hmem : ch ∈ s := List.mem_of_mem_head? hch
    obtain ⟨hblank, hbreak⟩ := hwords.of_mem hmem (hwords.isSpace_head ch hch)
    refine ⟨hblank, hbreak, ?_, ?_⟩
    · rintro rfl
      exact hwords.no_comment hch
    · rintro rfl
      exact absurd (hwords.writable _ hmem) (by decide)
  | singleQuoted _ => exact startsToken_cons (by decide) _
  | doubleQuoted _ => exact startsToken_cons (by decide) _
  | literal _ _ => exact startsToken_cons (by decide) _

/-- No string is written as nothing. -/
theorem writeString_ne_nil (indent : Nat) (s : String) : writeString indent s ≠ [] := by
  rw [writeString_eq]
  exact writeStyled_ne_nil (suits_styleOf s) indent

/-- What is written for a string starts a token. -/
theorem startsToken_writeString (indent : Nat) (s : String) :
    StartsToken (writeString indent s) := by
  rw [writeString_eq]
  exact startsToken_writeStyled (suits_styleOf s) indent

/-! ## Ends of lines -/

/-- A text with the end of its last line. -/
def ended (text : List Char) : List Char :=
  text ++ lineEnd text

/-- A text whose last line is open gets a line feed. -/
theorem ended_append {text : List Char} (h : lineEnd text = ['\n']) (more : List Char) :
    ended text ++ more = text ++ '\n' :: more := by
  rw [ended, h, List.append_assoc, List.singleton_append]

/-- Only the last line of a text matters for its end. -/
theorem ended_append_of_ne_nil (front : List Char) {back : List Char} (h : back ≠ []) :
    ended (front ++ back) = front ++ ended back := by
  rw [ended, ended, lineEnd, lineEnd, List.getLast?_append_of_ne_nil front h, List.append_assoc]

/-- What has been ended ends in a break, whether the text did or not. -/
theorem ended_eq_concat (text : List Char) :
    ∃ front b, ended text = front ++ [b] ∧ isBreak b = true := by
  unfold ended lineEnd
  split_ifs with hbreak
  · cases hlast : text.getLast? with
    | none => simp [hlast] at hbreak
    | some b =>
      obtain ⟨front, rfl⟩ := List.getLast?_eq_some_iff.mp hlast
      exact ⟨front, b, List.append_nil _, by simpa using hbreak⟩
  · exact ⟨text, '\n', rfl, by decide⟩

theorem ended_ne_nil (text : List Char) : ended text ≠ [] := by
  obtain ⟨front, b, hended, -⟩ := ended_eq_concat text
  rw [hended]
  exact List.concat_ne_nil b front

/-- What is indented behind a line starts in that column. -/
theorem column_past_ended (text : List Char) (indent : Nat) (c : Cursor) :
    (c.past (ended text ++ indentation indent)).column = indent := by
  obtain ⟨front, b, hended, hb⟩ := ended_eq_concat text
  rw [hended, List.append_assoc]
  exact Cursor.column_past_indentation (by simpa using hb) (List.cons_ne_nil _ _) front indent c

/-- A text that does not end in a break gets a line feed. -/
theorem lineEnd_of_getLast? {text : List Char} {last : Char} (h : text.getLast? = some last)
    (hlast : isBreak last = false) : lineEnd text = ['\n'] := by
  unfold lineEnd
  rw [h, Option.map_some, Option.getD_some, hlast]
  rfl

/-- A text between single quotes ends in the quote that closes it. -/
theorem getLast?_indentLines (indent : Nat) (atBreak : Bool) (close : Char) (s : List Char) :
    (indentLines indent atBreak [close] s).getLast? = some close := by
  induction s generalizing atBreak with
  | nil =>
    rw [indentLines]
    split_ifs <;> simp
  | cons ch s ih =>
    rw [indentLines]
    split_ifs <;> simp [List.getLast?_append, List.getLast?_cons, ih]

/-- A scalar that is no block leaves its last line open. -/
theorem lineEnd_writeStyled {style : ScalarStyle} {s : List Char} (h : Suits style s)
    (hstyle : style ≠ .literal) (indent : Nat) : lineEnd (writeStyled indent style s) = ['\n'] := by
  cases h with
  | plain h =>
    have hwords : PlainWords 'a' s := h.plainWords (by decide) (by decide)
    exact lineEnd_of_getLast? (List.getLast?_eq_some_getLast h.ne_nil)
      (hwords.no_break _ (List.getLast_mem h.ne_nil))
  | singleQuoted h =>
    have hlast : (singleQuoted indent s).getLast? = some '\'' := by
      simp [singleQuoted, List.getLast?_cons, getLast?_indentLines]
    exact lineEnd_of_getLast? hlast (by decide)
  | doubleQuoted s =>
    have hlast : (doubleQuoted s).getLast? = some '"' := by
      simp [doubleQuoted, List.getLast?_cons]
    exact lineEnd_of_getLast? hlast (by decide)
  | literal _ _ => exact absurd rfl hstyle

/-! ## Reading one scalar -/

namespace Scanner

/-- The first column inside the innermost of some block collections. -/
def limitOf : List Nat → Nat
  | [] => 0
  | column :: _ => column + 1

/-- The place that is remembered for a node. -/
def keyAt (keyAllowed : Bool) (c : Cursor) (columns : List Nat) (reversed : List Token) :
    Option KeyPlace :=
  if keyAllowed then some ⟨columns.head? = some c.column, reversed.length, c.line, c.column⟩
  else none

section

variable {keyAllowed : Bool} {c : Cursor} {columns : List Nat} {reversed : List Token}

/-- Inside a block a scalar must be further in than the column of the block. -/
theorem limit_inBlock (key : Option KeyPlace) :
    (inBlock key keyAllowed c columns reversed).limit = limitOf columns := by
  cases columns <;> rfl

theorem dropKey_inBlock : (inBlock none keyAllowed c columns reversed).dropKey
    = some (inBlock none keyAllowed c columns reversed) := rfl

/-- If a key may stand here, the place is remembered. -/
theorem saveKey_inBlock : (inBlock none keyAllowed c columns reversed).saveKey
    = some (inBlock (keyAt keyAllowed c columns reversed) keyAllowed c columns reversed) := by
  cases keyAllowed <;> rfl

/-- The characters that no plain scalar starts with, whatever follows. -/
def indicators : List Char :=
  ['#', ',', '[', ']', '\x7b', '\x7d', '&', '*', '!', '|', '>', '\'', '"', '%', '@', '\x60']

/-- A plain scalar may start with what is neither a blank nor an indicator. -/
theorem startsPlain_of_not_indicator {ch : Char} {rest : List Char} (hblank : isBlank ch = false)
    (hbreak : isBreak ch = false)
    (hindicators : ch ∉ indicators)
    (hword : ch = '?' ∨ ch = ':' ∨ ch = '-' → endsWord rest = false) :
    startsPlain false (ch :: rest) = true := by
  unfold startsPlain
  -- three indicators may start a plain scalar, if a word follows
  by_cases hmark : ch = '?' ∨ ch = ':' ∨ ch = '-'
  · have hends := hword hmark
    rcases hmark with rfl | rfl | rfl
    · simp [hends]
    · simp [hends]
    · cases rest with
      | nil => cases hends
      | cons d rest =>
        have hd : isBlank d = false := (Bool.or_eq_false_iff.mp hends).1
        simp [hd]
  · have hall : ("-?:,[]\x7b\x7d#&*!|>'\"%@\x60".toList.all fun d =>
        (d = '?' ∨ d = ':' ∨ d = '-') ∨ d ∈ indicators) = true := by decide
    have hnone : "-?:,[]\x7b\x7d#&*!|>'\"%@\x60".toList.contains ch = false := by
      rw [List.contains_eq_mem, decide_eq_false_iff_not]
      exact fun hmem =>
        (of_decide_eq_true (List.all_eq_true.mp hall ch hmem)).elim hmark hindicators
    dsimp only
    rw [hblank, hbreak, hnone]
    rfl

/-- The first character decides that a plain scalar is read. -/
theorem fetchHere_plain {s more : List Char} {next : Char} (h : ReadsPlain s)
    (hc : c.rest = s ++ next :: more) (hnext : next ≠ '-' ∧ next ≠ '.') :
    (inBlock none keyAllowed c columns reversed).fetchHere
      = (inBlock none keyAllowed c columns reversed).fetchPlain := by
  have hdash := h.atMarker_eq hc (Or.inl rfl) hnext.1
  have hdot := h.atMarker_eq hc (Or.inr rfl) hnext.2
  have hwords : PlainWords 'a' s := h.plainWords (by decide) (by decide)
  have hstart := h.startsWithIndicator_eq
  obtain ⟨ch, s, rfl⟩ := List.exists_cons_of_ne_nil h.ne_nil
  obtain ⟨hblank, hbreak⟩ := hwords.of_mem List.mem_cons_self (hwords.isSpace_head ch rfl)
  unfold startsWithIndicator at hstart
  rw [Bool.or_eq_false_iff] at hstart
  obtain ⟨hindicators, hwordEnd⟩ := hstart
  -- what may not start a plain scalar for the writer is what may not for the scanner
  have hlist : "#,[]\x7b\x7d&*!|>'\"%@\x60".toList = indicators := by decide
  rw [hlist, List.contains_eq_mem, decide_eq_false_iff_not] at hindicators
  have hword : ch = '?' ∨ ch = ':' ∨ ch = '-' → endsWord (s ++ next :: more) = false := by
    intro hch
    apply endsWord_append
    rcases hch with rfl | rfl | rfl <;> simpa using hwordEnd
  have hno_word {mark : Char} (hmark : mark = '?' ∨ mark = ':' ∨ mark = '-') :
      ¬(ch = mark ∧ endsWord (s ++ next :: more) = true) := by
    rintro ⟨rfl, hends⟩
    rw [hword hmark] at hends
    cases hends
  have hstarts := startsPlain_of_not_indicator hblank hbreak hindicators hword
  simp only [indicators, List.mem_cons, List.not_mem_nil, or_false, not_or] at hindicators
  simp [fetchHere, hdash, hdot, hc, hindicators, hno_word, hstarts]

/-- An opening quote decides that a quoted scalar is read. -/
theorem fetchHere_quoted {style : ScalarStyle} {more : List Char}
    (hstyle : style = .singleQuoted ∨ style = .doubleQuoted)
    (hc : c.rest = (if style = .singleQuoted then '\'' else '"') :: more) :
    (inBlock none keyAllowed c columns reversed).fetchHere
      = (inBlock none keyAllowed c columns reversed).fetchQuoted style := by
  rcases hstyle with rfl | rfl
  · have hc : c.rest = '\'' :: more := hc
    simp [fetchHere, hc, Cursor.atMarker_of_ne hc]
  · have hc : c.rest = '"' :: more := hc
    simp [fetchHere, hc, Cursor.atMarker_of_ne hc]

/-- A bar starts a literal scalar. -/
theorem fetchHere_literal {more : List Char} (hc : c.rest = '|' :: more) :
    (inBlock none keyAllowed c columns reversed).fetchHere
      = (inBlock none keyAllowed c columns reversed).fetchBlockScalar .literal := by
  simp [fetchHere, hc, Cursor.atMarker_of_ne hc]

/-- A plain scalar gives one token; a key is allowed behind it only on another line. -/
theorem fetchPlain_eq {s : List Char} {broken : Bool} {u : Cursor}
    (hread : takePlain false (limitOf columns) (c.rest.length + 1) [] {} c
      = some (⟨s, broken⟩, u)) :
    (inBlock none keyAllowed c columns reversed).fetchPlain
      = some (inBlock (keyAt keyAllowed c columns reversed) broken u columns
        (.scalar .plain (String.ofList s) :: reversed)) := by
  unfold fetchPlain
  simp [saveKey_inBlock, limit_inBlock, hread]
  rfl

/-- A quoted scalar gives one token, and no key may follow on its line. -/
theorem fetchQuoted_eq {style : ScalarStyle} {s : List Char} {u : Cursor}
    (hread : takeQuoted (style = .singleQuoted) ((c.advance 1).rest.length + 1) (c.advance 1)
      = some (s, u)) :
    (inBlock none keyAllowed c columns reversed).fetchQuoted style
      = some (inBlock (keyAt keyAllowed c columns reversed) false u columns
        (.scalar style (String.ofList s) :: reversed)) := by
  unfold fetchQuoted
  simp [saveKey_inBlock, hread]
  rfl

/-- A literal scalar gives one token and is no key; behind it a line starts. -/
theorem fetchLiteral_eq {s : List Char} {u : Cursor}
    (hread : takeBlock false (limitOf columns) (c.advance 1) = some (s, u)) :
    (inBlock none keyAllowed c columns reversed).fetchBlockScalar .literal
      = some (inBlock none true u columns (.scalar .literal (String.ofList s) :: reversed)) := by
  unfold fetchBlockScalar
  rw [dropKey_inBlock]
  simp [limit_inBlock, hread]
  rfl

/-- A quoted scalar is read up to its closing quote. -/
theorem fetchHere_singleQuoted {s tail : List Char} (h : KeepsGaps s) {indent : Nat}
    (hindent : 0 < indent) (htail : tail.head? ≠ some '\'')
    (hc : c.rest = singleQuoted indent s ++ tail) :
    (inBlock none keyAllowed c columns reversed).fetchHere
      = some (inBlock (keyAt keyAllowed c columns reversed) false (c.past (singleQuoted indent s))
        columns (.scalar .singleQuoted (String.ofList s) :: reversed)) := by
  have hrest : (c.advance 1).rest = indentLines indent false ['\''] s ++ tail :=
    Cursor.rest_advance_one hc
  rw [fetchHere_quoted (Or.inl rfl) hc]
  have hfuel : s.length < (c.advance 1).rest.length + 1 := by
    have hle := length_le_length_indentLines indent false ['\''] s
    rw [hrest, List.length_append]
    omega
  exact fetchQuoted_eq (takeQuoted_singleQuoted h htail hindent hfuel (Nat.succ_pos _) hrest)

/-- A quoted scalar is read up to its closing quote. -/
theorem fetchHere_doubleQuoted {s tail : List Char} (hc : c.rest = doubleQuoted s ++ tail) :
    (inBlock none keyAllowed c columns reversed).fetchHere
      = some (inBlock (keyAt keyAllowed c columns reversed) false (c.past (doubleQuoted s))
        columns (.scalar .doubleQuoted (String.ofList s) :: reversed)) := by
  have hquoted : c.rest = '"' :: (s.flatMap inDoubleQuotes ++ '"' :: tail) := by
    rw [hc, doubleQuoted_eq]
    simp
  have hrest := Cursor.rest_advance_one hquoted
  rw [fetchHere_quoted (Or.inr rfl) hquoted]
  have hfuel : s.length < (c.advance 1).rest.length + 1 := by
    have hle := length_le_length_inDoubleQuotes s
    rw [hrest, List.length_append]
    omega
  exact fetchQuoted_eq (takeQuoted_doubleQuoted s tail hfuel (Nat.succ_pos _) hrest)

/-- A scalar on one line is read up to the colon behind it. -/
theorem fetchHere_key {style : ScalarStyle} {s more : List Char} (h : Suits style s)
    (hstyle : style ≠ .literal) {indent : Nat} (hindent : 0 < indent)
    (hmore : endsWord more = true) (hcolumn : limitOf columns ≤ c.column + 1)
    (hc : c.rest = writeStyled indent style s ++ ':' :: more) :
    (inBlock none keyAllowed c columns reversed).fetchHere
      = some (inBlock (keyAt keyAllowed c columns reversed) false
        (c.past (writeStyled indent style s)) columns
        (.scalar style (String.ofList s) :: reversed)) := by
  cases h with
  | plain h =>
    rw [fetchHere_plain h hc (by decide)]
    exact fetchPlain_eq (h.takePlain_colon hmore hc hcolumn)
  | singleQuoted h => exact fetchHere_singleQuoted h hindent (by simp) hc
  | doubleQuoted s => exact fetchHere_doubleQuoted hc
  | literal _ _ => exact absurd rfl hstyle

/-- The place that is remembered is that of the cursor. -/
theorem eq_of_mem_keyAt {place : KeyPlace} (h : place ∈ keyAt keyAllowed c columns reversed) :
    place = ⟨columns.head? = some c.column, reversed.length, c.line, c.column⟩ := by
  unfold keyAt at h
  split_ifs at h
  · exact (Option.some.inj h).symm
  · cases h

/-- The place of a node inside of its block is not required to be a key. -/
theorem required_of_mem_keyAt (h : limitOf columns ≤ c.column) {place : KeyPlace}
    (hplace : place ∈ keyAt keyAllowed c columns reversed) : place.required = false := by
  have hcolumn : columns.head? ≠ some c.column := by
    cases columns with
    | nil => nofun
    | cons column columns =>
      intro heq
      have hle : column + 1 ≤ c.column := h
      rw [Option.some.inj heq] at hle
      omega
  rw [eq_of_mem_keyAt hplace]
  exact decide_eq_false hcolumn

section

variable {column : Nat} {next : List Char}

/-- Behind what leaves its line open the line is ended. -/
theorem leads_of_open_line {s : Scanner} {written : List Char} {tokens : List Token}
    (hfetch : s.fetchHere = some (inBlock (keyAt keyAllowed c columns reversed) false
      (c.past written) columns tokens))
    (hnext : StartsToken next) (hcolumn : limitOf columns ≤ c.column)
    (hc : c.rest = written ++ '\n' :: (indentation column ++ next))
    (hs : (c.past written).rest.length ≤ s.cursor.rest.length) :
    Leads s ((inBlock none true (c.past (written ++ '\n' :: indentation column)) columns
      tokens).closeBlocks column) := by
  have hrest : (c.past written).rest = '\n' :: (indentation column ++ next) := Cursor.rest_past hc
  have hkey : ∀ place ∈ keyAt keyAllowed c columns reversed,
      place.required = false ∧ place.line ≤ (c.past written).line := by
    intro place hplace
    refine ⟨required_of_mem_keyAt hcolumn hplace, ?_⟩
    rw [eq_of_mem_keyAt hplace]
    exact Cursor.line_le_line_past written c
  have hsettle := settle_line _ false columns tokens hnext hrest hkey
  rw [Cursor.past_append]
  refine Leads.step hfetch hsettle ?_
  rw [cursor_closeBlocks]
  have hsplit : (c.past written).rest = '\n' :: indentation column ++ next := hrest
  exact Nat.lt_of_lt_of_le (Cursor.length_past_lt hsplit (List.cons_ne_nil _ _)) hs

/-- What takes the end of its line with it leads to the next line. -/
theorem leads_of_closed_line {key : Option KeyPlace} {written : List Char} {tokens : List Token}
    (hfetch : (inBlock none keyAllowed c columns reversed).fetchHere
      = some (inBlock key true (c.past (written ++ indentation column)) columns tokens))
    (hkey : ∀ place ∈ key, place.required = false ∧
      place.line < (c.past (written ++ indentation column)).line)
    (hnext : StartsToken next) (hne : written ≠ [])
    (hcolumn : (c.past (written ++ indentation column)).column = column)
    (hc : c.rest = written ++ indentation column ++ next) :
    Leads (inBlock none keyAllowed c columns reversed)
      ((inBlock none true (c.past (written ++ indentation column)) columns
        tokens).closeBlocks column) := by
  have hsettle := settle_here key true columns tokens (Cursor.rest_past hc ▸ hnext) hkey
  rw [hcolumn] at hsettle
  refine Leads.step hfetch hsettle ?_
  rw [cursor_closeBlocks]
  exact Cursor.length_past_lt hc (by simp [hne])

/-- A plain scalar at the end of a line is read with the break behind it, and blocks are closed for
the next line. -/
theorem leads_plain {s : List Char} (h : ReadsPlain s)
    (hend : EndsNode (limitOf columns) column next) (hcolumn : limitOf columns ≤ c.column)
    (hc : c.rest = ended s ++ (indentation column ++ next)) :
    Leads (inBlock none keyAllowed c columns reversed)
      ((inBlock none true (c.past (ended s ++ indentation column)) columns
        (.scalar .plain (String.ofList s) :: reversed)).closeBlocks column) := by
  have hopen : lineEnd s = ['\n'] := lineEnd_writeStyled (.plain h) nofun 0
  have hline := hc
  rw [ended_append hopen] at hline
  have hread := h.takePlain_line hend.startsToken (hend.outside.imp_right And.left) hline
    (Nat.le_succ_of_le hcolumn)
  rw [← ended_append hopen] at hread
  have hkey : ∀ place ∈ keyAt keyAllowed c columns reversed, place.required = false ∧
      place.line < (c.past (ended s ++ indentation column)).line := by
    intro place hplace
    refine ⟨required_of_mem_keyAt hcolumn hplace, ?_⟩
    rw [eq_of_mem_keyAt hplace, ended_append hopen]
    exact Cursor.line_lt_line_past (by decide) s _ c
  exact leads_of_closed_line ((fetchHere_plain h hline (by decide)).trans (fetchPlain_eq hread))
    hkey hend.startsToken (ended_ne_nil s) (column_past_ended s column c)
    (by rw [hc, List.append_assoc])

/-- A literal block is read with its last line. -/
theorem takeBlock_ended {parent : Nat} {s : List Char} (hne : s ≠ [])
    (hwritable : ∀ ch ∈ s, isWritable ch = true) (hend : EndsNode parent column next)
    (hc : c.rest = ended (literal (parent - 1 + 2) s) ++ (indentation column ++ next)) :
    takeBlock false parent (c.advance 1)
      = some (s, c.past (ended (literal (parent - 1 + 2) s) ++ indentation column)) := by
  obtain ⟨front, breaks, rfl, hfront, hbreaks⟩ := exists_final_breaks s
  have hheader := literalHeader_eq hne hfront hbreaks
  have hended : ended (literal (parent - 1 + 2) (front ++ breaks))
      = ['|'] ++ ((if startsLoosely (front ++ breaks) then ['2'] else [])
        ++ (chompingOf front breaks).indicator ++ ['\n']
        ++ (literalLines (parent - 1 + 2) true front ++ finalBreaks breaks)) := by
    rw [ended, literal_append_lineEnd hne hfront hbreaks, hheader]
    simp
  rw [hended] at hc ⊢
  -- the header as a whole, whichever its indicators are
  generalize hhead : (if startsLoosely (front ++ breaks) then ['2'] else [])
    ++ (chompingOf front breaks).indicator ++ ['\n'] = head at hc ⊢
  have hbar : c.past ['|'] = c.advance 1 := Cursor.past_of_no_break (forall_not_break rfl) c
  have hrest : (c.advance 1).rest = head ++ (literalLines (parent - 1 + 2) true front
      ++ (finalBreaks breaks ++ (indentation column ++ next))) := by
    rw [← hbar]
    exact Cursor.rest_past (by rw [hc]; simp)
  rw [takeBlock_literal hne hfront hbreaks
    (fun ch hch => hwritable ch (List.mem_append_left _ hch)) hend hhead.symm hrest, ← hbar,
    ← Cursor.past_append]
  simp

/-- So is a literal scalar, which takes all lines that are further in. -/
theorem leads_literal {s : List Char} (hne : s ≠ []) (hwritable : ∀ ch ∈ s, isWritable ch = true)
    (hend : EndsNode (limitOf columns) column next)
    (hc : c.rest = ended (literal (limitOf columns - 1 + 2) s) ++ (indentation column ++ next)) :
    Leads (inBlock none keyAllowed c columns reversed)
      ((inBlock none true (c.past (ended (literal (limitOf columns - 1 + 2) s)
        ++ indentation column)) columns
        (.scalar .literal (String.ofList s) :: reversed)).closeBlocks column) :=
  leads_of_closed_line
    ((fetchHere_literal hc).trans (fetchLiteral_eq (takeBlock_ended hne hwritable hend hc))) nofun
    hend.startsToken (ended_ne_nil _) (column_past_ended _ column c)
    (by rw [hc, List.append_assoc])

/-- A scalar is read to the end of its line, and the next token is looked for. -/
theorem leads_scalar {style : ScalarStyle} {s : List Char} (h : Suits style s)
    (hend : EndsNode (limitOf columns) column next) (hcolumn : limitOf columns ≤ c.column)
    (hc : c.rest = ended (writeStyled (limitOf columns - 1 + 2) style s)
      ++ (indentation column ++ next)) :
    Leads (inBlock none keyAllowed c columns reversed)
      ((inBlock none true (c.past (ended (writeStyled (limitOf columns - 1 + 2) style s)
        ++ indentation column)) columns
        (.scalar style (String.ofList s) :: reversed)).closeBlocks column) := by
  have hindent : 0 < limitOf columns - 1 + 2 := Nat.succ_pos _
  cases h with
  | plain h => exact leads_plain h hend hcolumn hc
  | singleQuoted h =>
    have hopen := lineEnd_writeStyled (.singleQuoted h) nofun (limitOf columns - 1 + 2)
    rw [ended_append hopen] at hc ⊢
    exact leads_of_open_line (fetchHere_singleQuoted h hindent (by simp) hc) hend.startsToken
      hcolumn hc (Cursor.length_past_le hc)
  | doubleQuoted s =>
    have hopen := lineEnd_writeStyled (.doubleQuoted s) nofun (limitOf columns - 1 + 2)
    rw [ended_append hopen] at hc ⊢
    exact leads_of_open_line (fetchHere_doubleQuoted hc) hend.startsToken hcolumn hc
      (Cursor.length_past_le hc)
  | literal hne hwritable => exact leads_literal hne hwritable hend hc

end

end

end Scanner

end LayeredSchema.Yaml
