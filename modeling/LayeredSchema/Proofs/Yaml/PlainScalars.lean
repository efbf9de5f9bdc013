import LayeredSchema.Proofs.Yaml.Cursor
import LayeredSchema.Yaml.Token.Plain

/-!
# Plain scalars are read back

A text that can be written plainly is read word by word, `takePlain_words`, and the reader then
decides by what follows, `afterWord`: a colon ends the scalar in front of it, `takePlain_colon`, and
a line break ends it if the next line is not indented, `takePlain_line`.
-/

namespace LayeredSchema.Yaml

/-! ## Indicators -/

/-- Whether a word ends is told by the first character, so what follows does not matter. -/
theorem endsWord_append {front : List Char} (h : endsWord front = false) (back : List Char) :
    endsWord (front ++ back) = false := by
  cases front with
  | nil => cases h
  | cons c front => exact h

/-- What no indicator stands in has none in its second part. -/
theorem containsIndicator_of_append {front back : List Char}
    (h : containsIndicator (front ++ back) = false) : containsIndicator back = false := by
  induction front with
  | nil => exact h
  | cons c front ih =>
    apply ih
    cases hrest : front ++ back with
    | nil => rfl
    | cons d rest =>
      rw [List.cons_append, hrest, containsIndicator] at h
      simp only [Bool.or_eq_false_iff] at h
      exact h.2

/-- The characters of a word are read up to what stops them, unless an indicator stands among
them. -/
theorem takePlainWord_eq {before : Char} {word after tail : List Char}
    (hword : ∀ c ∈ word, isBlank c = false ∧ isBreak c = false)
    (hindicator : containsIndicator (before :: (word ++ after)) = false)
    (hstop : takePlainWord false (after ++ tail) = some []) :
    takePlainWord false (word ++ (after ++ tail)) = some word := by
  induction word generalizing before with
  | nil => exact hstop
  | cons c word ih =>
    obtain ⟨⟨hblank, hbreak⟩, hothers⟩ := List.forall_mem_cons.mp hword
    rw [List.cons_append, containsIndicator] at hindicator
    simp only [Bool.or_eq_false_iff, Bool.and_eq_false_iff, decide_eq_false_iff_not]
      at hindicator
    obtain ⟨⟨hcolon, -⟩, hindicator⟩ := hindicator
    -- a colon with no word behind it would be an indicator
    have hends : endsPlain false (c :: (word ++ (after ++ tail))) = false := by
      rcases hcolon with hne | hword
      · simp [endsPlain, hne]
      · have := endsWord_append hword tail
        rw [List.append_assoc] at this
        simp [endsPlain, this]
    rw [List.cons_append, takePlainWord, hblank, hbreak, hends, ih hothers hindicator]
    rfl

/-! ## Words of a plain scalar -/

/-- A text without loose ends has neither a space nor a break at either end. -/
theorem hasLooseEnd_eq_false_iff {s : List Char} : hasLooseEnd s = false ↔
    (∀ c ∈ s.head?, isSpace c = false ∧ isBreak c = false) ∧
      ∀ c ∈ s.getLast?, isSpace c = false ∧ isBreak c = false := by
  unfold hasLooseEnd
  cases s.head? <;> cases s.getLast? <;> simp

/-- A text that is read as the words of a plain scalar behind the character `before`. -/
structure PlainWords (before : Char) (s : List Char) : Prop where
  ne_nil : s ≠ []
  writable : ∀ c ∈ s, isWritable c = true
  no_break : ∀ c ∈ s, isBreak c = false
  no_loose_end : hasLooseEnd s = false
  no_indicator : containsIndicator (before :: s) = false
  no_comment : s.head? ≠ some '#'

namespace PlainWords

variable {before : Char} {s : List Char}

/-- Beyond spaces there are no blanks and no breaks in the words. -/
theorem of_mem (h : PlainWords before s) {c : Char} (hc : c ∈ s) (hspace : isSpace c = false) :
    isBlank c = false ∧ isBreak c = false :=
  ⟨isBlank_of_isWritable (h.writable c hc) hspace, h.no_break c hc⟩

/-- Words do not start with a space. -/
theorem isSpace_head (h : PlainWords before s) : ∀ c ∈ s.head?, isSpace c = false :=
  fun c hc => ((hasLooseEnd_eq_false_iff.mp h.no_loose_end).1 c hc).1

/-- Words do not end in a space. -/
theorem isSpace_last (h : PlainWords before s) : ∀ c ∈ s.getLast?, isSpace c = false :=
  fun c hc => ((hasLooseEnd_eq_false_iff.mp h.no_loose_end).2 c hc).1

/-- The words behind the first one. -/
theorem rest {word gap rest : List Char} (h : PlainWords before (word ++ (gap ++ rest)))
    (hgap : ∀ c ∈ gap, isSpace c = true) (hne : gap ≠ [])
    (hrest : ∀ c ∈ rest.head?, isSpace c = false) : PlainWords ' ' rest := by
  have hrest_ne : rest ≠ [] := rest_ne_nil hgap hne h.isSpace_last
  obtain ⟨gap, c, rfl⟩ := List.eq_nil_or_concat' gap |>.resolve_left hne
  obtain rfl : c = ' ' := eq_space_of_isSpace (hgap c (by simp))
  have hsplit : word ++ (gap ++ [' '] ++ rest) = (word ++ gap) ++ ' ' :: rest := by simp
  rw [hsplit] at h
  have hmem : ∀ c ∈ rest, c ∈ (word ++ gap) ++ ' ' :: rest := fun c hc => by simp [hc]
  -- the space in front counts for what must not follow a space
  have hindicator : containsIndicator (' ' :: rest) = false := by
    have := h.no_indicator
    rw [← List.cons_append] at this
    exact containsIndicator_of_append this
  refine ⟨hrest_ne, fun c hc => h.writable c (hmem c hc), fun c hc => h.no_break c (hmem c hc), ?_,
    hindicator, ?_⟩
  · have hlast := (hasLooseEnd_eq_false_iff.mp h.no_loose_end).2
    rw [← List.singleton_append, ← List.append_assoc,
      List.getLast?_append_of_ne_nil _ hrest_ne] at hlast
    refine hasLooseEnd_eq_false_iff.mpr ⟨fun c hc => ⟨hrest c hc, ?_⟩, hlast⟩
    exact h.no_break c (hmem c (List.mem_of_mem_head? hc))
  · intro hcomment
    cases rest with
    | nil => cases hcomment
    | cons d rest =>
      cases hcomment
      simp [containsIndicator, isBlank] at hindicator

/-- What words start with is no gap, whatever follows them. -/
theorem head_append (h : PlainWords before s) (tail : List Char) :
    ∀ c ∈ (s ++ tail).head?, isBlank c = false ∧ isBreak c = false := by
  rw [List.head?_append_of_ne_nil _ h.ne_nil]
  exact fun c hc => h.of_mem (List.mem_of_mem_head? hc) (h.isSpace_head c hc)

end PlainWords

/-! ## Reading the words -/

/-- What the reader of a plain scalar does behind a word. -/
def afterWord (limit fuel : Nat) (text : List Char) (c : Cursor) : Option (PlainText × Cursor) :=
  match c.rest with
  | [] => some (⟨text, false⟩, c)
  | ch :: _ =>
    if isBlank ch || isBreak ch then do
      let (gap, c) ← takeGap limit c.rest.length {} c
      if c.column < limit then some (⟨text, gap.breaks ≠ []⟩, c)
      else takePlain false limit fuel text gap c
    else some (⟨text, false⟩, c)

/-- One word is taken, with the gap in front of it. -/
theorem takePlain_word {limit fuel : Nat} {text word more : List Char} {gap : Gap} {c : Cursor}
    (hc : c.rest = word ++ more) (hmarker : c.atDocumentMarker = false)
    (hcomment : word.head? ≠ some '#') (hne : word ≠ [])
    (hbreak : ∀ ch ∈ word, isBreak ch = false)
    (hword : takePlainWord false (word ++ more) = some word) :
    takePlain false limit (fuel + 1) text gap c
      = afterWord limit fuel (text ++ gap.folded ++ word) (c.past word) := by
  have hhead : c.rest.head? ≠ some '#' := by
    rw [hc, List.head?_append_of_ne_nil _ hne]
    exact hcomment
  have hstart : ¬(c.atDocumentMarker = true ∨ c.rest.head? = some '#') := by
    rw [hmarker]
    simpa using hhead
  rw [takePlain, if_neg hstart, hc, hword, Cursor.past_of_no_break hbreak]
  simp only [Option.bind_eq_bind, Option.bind_some, if_neg hne, Bool.false_eq_true,
    not_false_eq_true, true_and]
  rfl

/-- Spaces in front of a further word are a gap. -/
theorem afterWord_spaces {limit : Nat} {blanks more : List Char} (hblanks : ∀ ch ∈ blanks, ch = ' ')
    (hne : blanks ≠ []) (hmore : ∀ ch ∈ more.head?, isBlank ch = false ∧ isBreak ch = false)
    (fuel : Nat) (text : List Char) {c : Cursor} (hc : c.rest = blanks ++ more)
    (hlimit : limit ≤ c.column + blanks.length) :
    afterWord limit fuel text c = takePlain false limit fuel text { blanks } (c.past blanks) := by
  have hgap : takeGap limit c.rest.length {} c = some ({ blanks }, c.past blanks) := by
    rw [takeGap_eq (fun ch hch => Or.inl (hblanks ch hch)) hmore (by simp [hc]) {} hc,
      foldl_extend_spaces hblanks, List.nil_append]
  have hcolumn : ¬(c.past blanks).column < limit := by
    rw [Cursor.past_of_spaces hblanks]
    exact Nat.not_lt.mpr hlimit
  cases blanks with
  | nil => exact absurd rfl hne
  | cons ch blanks =>
    obtain rfl : ch = ' ' := hblanks ch List.mem_cons_self
    unfold afterWord
    rw [hgap]
    simp [hc, isBlank, hcolumn]

/-- A plain scalar ends with the text. -/
theorem takePlain_of_rest_eq_nil (limit fuel : Nat) (text : List Char) (gap : Gap) {c : Cursor}
    (hc : c.rest = []) :
    takePlain false limit fuel text gap c = some (⟨text, gap.breaks ≠ []⟩, c) := by
  cases fuel with
  | zero => rfl
  | succ fuel => simp [takePlain, hc, Cursor.atDocumentMarker, Cursor.atMarker, takePlainWord]

/-- A line that is not indented ends a plain scalar, and so does the end of the text. -/
theorem afterWord_line {limit indent : Nat} {next : List Char} (hnext : StartsToken next)
    (hindent : indent < limit ∨ next = []) (fuel : Nat) (text : List Char) {c : Cursor}
    (hc : c.rest = '\n' :: (indentation indent ++ next)) :
    afterWord limit fuel text c = some (⟨text, true⟩, c.past ('\n' :: indentation indent)) := by
  have hgap : takeGap limit c.rest.length {} c
      = some ({ breaks := ['\n'] }, c.past ('\n' :: indentation indent)) := by
    have htext : ∀ d ∈ '\n' :: indentation indent, d = ' ' ∨ isBreak d = true := by
      intro d hd
      rcases List.mem_cons.mp hd with rfl | hspace
      · exact Or.inr (by decide)
      · exact Or.inl (mem_indentation hspace)
    have hfuel : ('\n' :: indentation indent).length ≤ c.rest.length := by simp [hc]
    rw [takeGap_eq htext (fun d hd => ⟨(hnext d hd).1, (hnext d hd).2.1⟩) hfuel {} hc,
      ← List.singleton_append, foldl_extend_breaks (List.forall_mem_singleton.mpr rfl) (by decide)]
  have hcolumn : (c.past ('\n' :: indentation indent)).column = indent :=
    Cursor.column_past_line [] indent c
  unfold afterWord
  rw [hgap]
  rcases hindent with hless | rfl
  · simp [hc, isBlank, isBreak, hcolumn, hless]
  · have hrest : (c.past ('\n' :: indentation indent)).rest = [] := Cursor.rest_past hc
    have hend := takePlain_of_rest_eq_nil limit fuel text { breaks := ['\n'] } hrest
    simp [hc, isBlank, isBreak, hend]

/-- The first word is read with its text behind what was read before. -/
theorem PlainWords.takePlain_first {before : Char} {word blanks rest tail : List Char}
    (h : PlainWords before (word ++ (blanks ++ rest))) (hword : ∀ d ∈ word, isSpace d = false)
    (hne : word ≠ []) (hstop : takePlainWord false (blanks ++ (rest ++ tail)) = some [])
    (limit fuel : Nat) (text : List Char) (gap : Gap) {c : Cursor}
    (hc : c.rest = word ++ (blanks ++ (rest ++ tail))) (hmarker : c.atDocumentMarker = false) :
    takePlain false limit (fuel + 1) text gap c
      = afterWord limit fuel (text ++ gap.folded ++ word) (c.past word) := by
  have hchars : ∀ d ∈ word, isBlank d = false ∧ isBreak d = false := fun d hd =>
    h.of_mem (List.mem_append_left _ hd) (hword d hd)
  have hcomment := h.no_comment
  rw [List.head?_append_of_ne_nil _ hne] at hcomment
  apply takePlain_word hc hmarker hcomment hne fun d hd => (hchars d hd).2
  rw [← List.append_assoc blanks] at hstop ⊢
  exact takePlainWord_eq hchars h.no_indicator hstop

/-- The words of a plain scalar are read up to what stops the last one. -/
theorem takePlain_words {limit : Nat} {s tail : List Char} {before : Char}
    (h : PlainWords before s) (hstop : takePlainWord false tail = some []) {fuel : Nat}
    (hfuel : s.length ≤ fuel) (text : List Char) (gap : Gap) {c : Cursor} (hc : c.rest = s ++ tail)
    (hmarker : c.atDocumentMarker = false) (hlimit : limit ≤ c.column + 1) :
    ∃ left, fuel ≤ left + s.length ∧ takePlain false limit fuel text gap c
      = afterWord limit left (text ++ gap.folded ++ s) (c.past s) := by
  -- word by word; the gap in front of a word is only known when the word is read
  induction s using words_induction isSpace generalizing before fuel text gap c with
  | step word blanks rest hword hblanks hrest hlast ih =>
    have hne : word ≠ [] := first_word_ne_nil hblanks hlast h.ne_nil h.isSpace_head
    have hpos := List.length_pos_of_ne_nil hne
    rw [List.append_assoc, List.append_assoc] at hc
    rw [List.length_append, List.length_append] at hfuel
    obtain ⟨fuel, rfl⟩ : ∃ n, fuel = n + 1 := ⟨fuel - 1, by omega⟩
    by_cases hgap : blanks = []
    · -- the last word
      obtain rfl : rest = [] := hlast hgap
      subst hgap
      refine ⟨fuel, by simp only [List.append_nil]; omega, ?_⟩
      rw [h.takePlain_first hword hne hstop limit fuel text gap hc hmarker, List.append_nil,
        List.append_nil]
    · -- behind the first word the cursor is no longer at the start of a line
      have hspaces : ∀ d ∈ blanks, d = ' ' := fun d hd => eq_space_of_isSpace (hblanks d hd)
      have hpos' := List.length_pos_of_ne_nil hgap
      have hnext := h.rest hblanks hgap hrest
      have hstop' : takePlainWord false (blanks ++ (rest ++ tail)) = some [] := by
        obtain ⟨d, blanks, rfl⟩ := List.exists_cons_of_ne_nil hgap
        rw [hspaces d List.mem_cons_self]
        rfl
      have hpast : (c.past word).rest = blanks ++ (rest ++ tail) := Cursor.rest_past hc
      have hcolumn : (c.past word).column = c.column + word.length :=
        Cursor.column_past_of_no_break (fun d hd => h.no_break d (List.mem_append_left _ hd)) c
      have hcolumn' : ((c.past word).past blanks).column
          = c.column + word.length + blanks.length := by
        rw [Cursor.past_of_spaces hspaces, ← hcolumn]
        rfl
      have hless : rest.length ≤ fuel := by omega
      obtain ⟨left, hleft, hread⟩ := ih hgap hnext hless
        (text ++ gap.folded ++ word) { blanks } (Cursor.rest_past hpast)
        (Cursor.atDocumentMarker_of_column (by omega)) (by omega)
      refine ⟨left, by simp only [List.length_append]; omega, ?_⟩
      rw [h.takePlain_first hword hne hstop' limit fuel text gap hc hmarker,
        afterWord_spaces hspaces hgap (hnext.head_append tail) _ _ hpast (by omega), hread,
        Cursor.past_append, Cursor.past_append]
      simp [Gap.folded]

/-! ## Texts that are written plainly -/

/-- A text that is not empty and can be written plainly. -/
structure ReadsPlain (s : List Char) : Prop where
  ne_nil : s ≠ []
  allowed : allowsPlain s = true

namespace ReadsPlain

variable {s : List Char}

/-- What a plain scalar is not: the writer refuses each of these. -/
theorem refusals (h : ReadsPlain s) :
    needsEscapes s = false ∧ s.any isBreak = false ∧ hasLooseEnd s = false ∧
      startsLikeMarker s = false ∧ startsWithIndicator s = false ∧
      containsIndicator s = false := by
  have hallowed := h.allowed
  unfold allowsPlain at hallowed
  rw [Bool.not_eq_true'] at hallowed
  simpa only [Bool.or_eq_false_iff, and_assoc] using hallowed

theorem startsWithIndicator_eq (h : ReadsPlain s) : startsWithIndicator s = false :=
  h.refusals.2.2.2.2.1

/-- A text that reads back from a plain scalar is words with single gaps between them. -/
theorem plainWords (h : ReadsPlain s) {before : Char} (hblank : isBlank before = false)
    (hbreak : isBreak before = false) : PlainWords before s := by
  obtain ⟨hescapes, hbreaks, hloose, -, hstart, hindicator⟩ := h.refusals
  obtain ⟨c, more, rfl⟩ := List.exists_cons_of_ne_nil h.ne_nil
  have hcolon : (c = ':' && endsWord more) = false := by
    unfold startsWithIndicator at hstart
    rw [Bool.or_eq_false_iff] at hstart
    by_cases hc : c = ':'
    · subst hc
      simpa using hstart.2
    · simp [hc]
  refine ⟨h.ne_nil, ?_, ?_, hloose, ?_, ?_⟩
  · exact isWritable_of_needsEscapes hescapes
  · simpa using hbreaks
  · rw [containsIndicator, hcolon, hindicator, hblank, hbreak]
    simp
  · rintro hcomment
    cases hcomment
    simp [startsWithIndicator] at hstart

/-- What a document starts or ends with does not stand at the front of a plain scalar, nor does it
go on into what follows. -/
theorem atMarker_eq (h : ReadsPlain s) {mark next : Char} {more : List Char} {c : Cursor}
    (hc : c.rest = s ++ next :: more) (hmark : mark = '-' ∨ mark = '.') (hnext : next ≠ mark) :
    c.atMarker mark = false := by
  obtain ⟨-, -, -, hmarker, -, -⟩ := h.refusals
  have htake : (s ++ next :: more).take 3 ≠ [mark, mark, mark] := by
    intro htake
    have hs : s.take 3 = [mark, mark, mark] := by
      match s, h.ne_nil with
      | [a], _ => simp_all
      | [a, b], _ => simp_all
      | a :: b :: d :: rest, _ => simpa using htake
    unfold startsLikeMarker at hmarker
    rcases hmark with rfl | rfl <;> simp [hs] at hmarker
  unfold Cursor.atMarker
  rw [hc]
  simp [htake]

/-- Such a text is not taken for a document marker. -/
theorem atDocumentMarker_eq (h : ReadsPlain s) {next : Char} {more : List Char} {c : Cursor}
    (hc : c.rest = s ++ next :: more) (hnext : next ≠ '-' ∧ next ≠ '.') :
    c.atDocumentMarker = false := by
  unfold Cursor.atDocumentMarker
  rw [h.atMarker_eq hc (Or.inl rfl) hnext.1, h.atMarker_eq hc (Or.inr rfl) hnext.2]
  rfl

/-- A plain scalar ends in front of a colon with no word behind it. -/
theorem takePlain_colon (h : ReadsPlain s) {limit : Nat} {more : List Char}
    (hmore : endsWord more = true) {c : Cursor} (hc : c.rest = s ++ ':' :: more)
    (hlimit : limit ≤ c.column + 1) :
    takePlain false limit (c.rest.length + 1) [] {} c = some (⟨s, false⟩, c.past s) := by
  have hwords : PlainWords 'a' s := h.plainWords (by decide) (by decide)
  have hstop : takePlainWord false (':' :: more) = some [] := by
    simp [takePlainWord, isBlank, isBreak, endsPlain, hmore]
  have hmarker := h.atDocumentMarker_eq hc (by decide)
  have hfuel : s.length ≤ c.rest.length + 1 := by simp [hc]; omega
  obtain ⟨left, -, hread⟩ := takePlain_words hwords hstop hfuel [] {} hc hmarker hlimit
  rw [hread]
  simp [afterWord, Cursor.rest_past hc, isBlank, isBreak, Gap.folded]

/-- A plain scalar ends at the end of its line if the next line is not indented or there is none;
the indentation of that line is passed. -/
theorem takePlain_line (h : ReadsPlain s) {limit indent : Nat} {next : List Char}
    (hnext : StartsToken next) (hindent : indent < limit ∨ next = []) {c : Cursor}
    (hc : c.rest = s ++ '\n' :: (indentation indent ++ next)) (hlimit : limit ≤ c.column + 1) :
    takePlain false limit (c.rest.length + 1) [] {} c
      = some (⟨s, true⟩, c.past (s ++ '\n' :: indentation indent)) := by
  have hwords : PlainWords 'a' s := h.plainWords (by decide) (by decide)
  have hmarker := h.atDocumentMarker_eq hc (by decide)
  have hfuel : s.length ≤ c.rest.length + 1 := by simp [hc]; omega
  obtain ⟨left, -, hread⟩ := takePlain_words hwords rfl hfuel [] {} hc hmarker hlimit
  rw [hread, List.nil_append, afterWord_line hnext hindent left _ (Cursor.rest_past hc),
    ← Cursor.past_append]
  rfl

end ReadsPlain

end LayeredSchema.Yaml
