import LayeredSchema.Proofs.Document.PlainValue
import LayeredSchema.Proofs.Text.Numeral
import LayeredSchema.Proofs.Yaml.PlainScalars
import LayeredSchema.Yaml.Reader

/-!
# Plain scalars stand for what was written

Integers are written as words that are no indicators, `readsPlain_writeInt`, and are recognized as
the same integers, `resolve_writeInt`. A string is written plainly only if it is recognized as
nothing else, so in its style it stands for itself, `untaggedValue?_styleOf`.
-/

namespace LayeredSchema.Yaml

open Numeral

/-! ## Words -/

/-- Without a first neighbour there are no neighbours. -/
theorem hasNeighbours_of_not {p q : Char → Bool} {s : List Char} (h : ∀ c ∈ s, p c = false) :
    hasNeighbours p q s = false := by
  induction s with
  | nil => rfl
  | cons a s ih =>
    obtain ⟨ha, hs⟩ := List.forall_mem_cons.mp h
    cases s with
    | nil => rfl
    | cons b s => rw [hasNeighbours, ha, ih hs]; rfl

/-- Only colons and number signs are indicators inside of a plain scalar. -/
theorem containsIndicator_of_not {s : List Char} (h : ∀ c ∈ s, c ≠ ':' ∧ c ≠ '#') :
    containsIndicator s = false := by
  induction s with
  | nil => rfl
  | cons a s ih =>
    obtain ⟨-, hs⟩ := List.forall_mem_cons.mp h
    cases s with
    | nil => rfl
    | cons b s =>
      obtain ⟨hcolon, hcomment⟩ := hs b List.mem_cons_self
      rw [containsIndicator, ih hs, decide_eq_false hcolon, decide_eq_false hcomment]
      rfl

/-- A word of characters that are no indicators can be written plainly unless it starts like
something else. -/
theorem ReadsPlain.of_word {s : List Char} (hne : s ≠ [])
    (hchars : ∀ c ∈ s, isWritable c = true ∧ isSpace c = false ∧ isBreak c = false)
    (hindicators : ∀ c ∈ s, c ≠ ':' ∧ c ≠ '#')
    (hmarker : startsLikeMarker s = false) (hstart : startsWithIndicator s = false) :
    ReadsPlain s := by
  have hwritable : s.any (fun c => !isWritable c) = false := by
    simpa using fun c hc => (hchars c hc).1
  have hbreak : s.any isBreak = false := by
    simpa using fun c hc => (hchars c hc).2.2
  have hspaces : hasNeighbours isSpace isBreak s = false :=
    hasNeighbours_of_not fun c hc => (hchars c hc).2.1
  have hends : hasLooseEnd s = false := hasLooseEnd_eq_false_iff.mpr
    ⟨fun c hc => (hchars c (List.mem_of_mem_head? hc)).2,
      fun c hc => (hchars c (List.mem_of_mem_getLast? hc)).2⟩
  refine ⟨hne, ?_⟩
  rw [allowsPlain, needsEscapes, hwritable, hspaces, hbreak, hends, hmarker, hstart,
    containsIndicator_of_not hindicators]
  rfl

/-! ## Integers -/

theorem toNat_of_isDigit {c : Char} (h : c.isDigit = true) : 48 ≤ c.toNat ∧ c.toNat ≤ 57 := by
  unfold Char.isDigit at h
  simpa [UInt32.le_iff_toNat_le] using h

theorem ne_of_isDigit {c mark : Char} (h : c.isDigit = true) (hmark : mark.isDigit = false) :
    c ≠ mark :=
  ne_of_apply_ne Char.isDigit (by simp [h, hmark])

/-- Digits are characters of words. -/
theorem isWord_of_isDigit {c : Char} (h : c.isDigit = true) :
    (isWritable c = true ∧ isSpace c = false ∧ isBreak c = false) ∧ c ≠ ':' ∧ c ≠ '#' := by
  have hrange := toNat_of_isDigit h
  have hprintable : 0x20 ≤ c.toNat ∧ c.toNat ≤ 0x7E := by omega
  exact ⟨⟨isWritable_of_printable hprintable, decide_eq_false (ne_of_isDigit h rfl),
    isBreak_of_printable hprintable⟩, ne_of_isDigit h rfl, ne_of_isDigit h rfl⟩

/-- No numeral starts with an indicator. -/
theorem startsWithIndicator_of_isDigit {d : Char} (h : d.isDigit = true) (more : List Char) :
    startsWithIndicator (d :: more) = false := by
  have hindicators : "#,[]\x7b\x7d&*!|>'\"%@\x60".toList.any Char.isDigit = false := by decide
  have hnone : "#,[]\x7b\x7d&*!|>'\"%@\x60".toList.contains d = false := by
    rw [List.contains_eq_mem, decide_eq_false_iff_not]
    exact fun hmem => List.any_eq_false.mp hindicators d hmem h
  have hmark : (d = '?' || d = ':' || d = '-') = false := by
    rw [Bool.eq_false_iff]
    intro hmark
    simp only [Bool.or_eq_true, decide_eq_true_eq, or_assoc] at hmark
    rcases hmark with hmark | hmark | hmark <;> exact ne_of_isDigit h rfl hmark
  rw [startsWithIndicator, hnone, hmark]
  rfl

/-- No numeral starts like a document marker, with a sign or without. -/
theorem startsLikeMarker_of_isDigit {d : Char} (h : d.isDigit = true) (more : List Char) :
    startsLikeMarker (d :: more) = false ∧ startsLikeMarker ('-' :: d :: more) = false := by
  have hdash : d ≠ '-' := ne_of_isDigit h rfl
  have hdot : d ≠ '.' := ne_of_isDigit h rfl
  unfold startsLikeMarker
  simp [hdash, hdot]

/-- An integer is written plainly. -/
theorem readsPlain_writeInt (n : Int) : ReadsPlain (writeInt n) := by
  obtain ⟨d, more, hdigits, hd, -⟩ := toDigits_eq_cons n.natAbs
  have hall : ∀ c ∈ d :: more, c.isDigit = true := by
    intro c hc
    rw [← hdigits] at hc
    exact Nat.isDigit_of_mem_toDigits (by decide) (by decide) hc
  obtain ⟨hmarker, hmarker'⟩ := startsLikeMarker_of_isDigit hd more
  unfold writeInt
  rw [hdigits]
  split_ifs
  · obtain ⟨⟨hwritable, hspace, hbreak⟩, -⟩ := isWord_of_isDigit hd
    have hword : endsWord (d :: more) = false :=
      Bool.or_eq_false_iff.mpr ⟨isBlank_of_isWritable hwritable hspace, hbreak⟩
    refine ReadsPlain.of_word (List.cons_ne_nil _ _)
      (List.forall_mem_cons.mpr ⟨by decide, fun c hc => (isWord_of_isDigit (hall c hc)).1⟩)
      (List.forall_mem_cons.mpr ⟨by decide, fun c hc => (isWord_of_isDigit (hall c hc)).2⟩)
      hmarker' ?_
    rw [startsWithIndicator, hword]
    decide
  · refine ReadsPlain.of_word (List.cons_ne_nil _ _)
      (fun c hc => (isWord_of_isDigit (hall c hc)).1)
      (fun c hc => (isWord_of_isDigit (hall c hc)).2) hmarker ?_
    exact startsWithIndicator_of_isDigit hd more

/-! ## Resolution -/

/-- Only a negative integer has a sign. -/
theorem splitSign_writeInt (n : Int) :
    splitSign (writeInt n) = (decide (n < 0), Nat.toDigits 10 n.natAbs) := by
  obtain ⟨d, more, hdigits, hd, -⟩ := toDigits_eq_cons n.natAbs
  unfold writeInt
  split_ifs with hn
  · rw [decide_eq_true hn]
    rfl
  · rw [decide_eq_false hn, hdigits]
    unfold splitSign
    split
    · next heq =>
      rw [(List.cons.inj heq).1] at hd
      exact absurd hd (by decide)
    · next heq =>
      rw [(List.cons.inj heq).1] at hd
      exact absurd hd (by decide)
    · rfl

/-- Digits of an integer are not written with a zero in front. -/
theorem hasLeadingZero_writeInt (n : Int) : hasLeadingZero (writeInt n) = false := by
  obtain ⟨d, more, hdigits, -, hzero⟩ := toDigits_eq_cons n.natAbs
  unfold hasLeadingZero
  rw [splitSign_writeInt]
  dsimp only
  by_cases hd : d = '0'
  · -- zero has one digit
    rw [hzero hd]
    rfl
  · have hfirst : (d :: more).head? ≠ some '0' := fun heq => hd (Option.some.inj heq)
    rw [hdigits, decide_eq_false hfirst, Bool.and_false]
    rfl

/-- The digits of a number are resolved to it. -/
theorem unsigned?_toDigits (n : Nat) : unsigned? (Nat.toDigits 10 n) = some n := by
  obtain ⟨d, more, hdigits, hd, hzero⟩ := toDigits_eq_cons n
  have hvalue : value? 10 (Nat.toDigits 10 n) = some n := by
    have hall : (Nat.toDigits 10 n).all (isDigit 10) = true :=
      List.all_eq_true.mpr (isDigit_of_mem_toDigits (by decide) (by decide) n)
    rw [value?, if_pos ⟨Nat.toDigits_ne_nil, hall⟩, value_toDigits (by decide) (by decide)]
  -- the only number whose digits start with a zero has no further digits
  have hne (base : Char) (digits : List Char) : Nat.toDigits 10 n ≠ '0' :: base :: digits := by
    intro heq
    rw [hdigits] at heq
    rw [hzero (List.cons.inj heq).1] at hdigits
    cases hdigits
    cases heq
  unfold unsigned?
  split
  · next heq => exact absurd heq (hne _ _)
  · next heq => exact absurd heq (hne _ _)
  · next heq => exact absurd heq (hne _ _)
  · exact hvalue

/-- What is written for an integer is resolved to it. -/
theorem integer?_writeInt (n : Int) : integer? (writeInt n) = some n := by
  unfold integer?
  rw [hasLeadingZero_writeInt, if_neg Bool.false_ne_true, splitSign_writeInt]
  dsimp only
  rw [unsigned?_toDigits]
  show some (if decide (n < 0) = true then -(n.natAbs : Int) else n.natAbs) = some n
  congr 1
  by_cases hn : n < 0
  · rw [decide_eq_true hn, if_pos rfl]
    omega
  · rw [decide_eq_false hn, if_neg Bool.false_ne_true]
    omega

/-- Whether an integer can start with a character. -/
def startsInteger (c : Char) : Bool :=
  c = '-' || c.isDigit

/-- No word is an integer. -/
theorem ofList_writeInt_ne (n : Int) {word : String}
    (h : word.toList.head?.any startsInteger = false) : String.ofList (writeInt n) ≠ word := by
  rintro rfl
  rw [String.toList_ofList] at h
  obtain ⟨d, more, hdigits, hd, -⟩ := toDigits_eq_cons n.natAbs
  unfold writeInt at h
  rw [hdigits] at h
  split_ifs at h
  · cases h
  · rw [List.head?_cons, Option.any_some, startsInteger, hd, Bool.or_true] at h
    cases h

/-- An integer that is held is read as it was. -/
theorem resolve_writeInt {n : Int} (h : fitsEither 63 n = true) :
    resolve (String.ofList (writeInt n)) = .value (.int n) := by
  have hne (word : String) (hword : word.toList.head?.any startsInteger = false) :
      String.ofList (writeInt n) ≠ word := ofList_writeInt_ne n hword
  have hempty : String.ofList (writeInt n) ≠ "" := hne "" (by decide)
  have hnull : isNullWord (String.ofList (writeInt n)) = false := by
    simp [isNullWord, hne "~" (by decide), hne "null" (by decide), hne "Null" (by decide),
      hne "NULL" (by decide)]
  have hbool : boolWord? (String.ofList (writeInt n)) = none := by
    simp [boolWord?, hne "true" (by decide), hne "True" (by decide), hne "TRUE" (by decide),
      hne "false" (by decide), hne "False" (by decide), hne "FALSE" (by decide)]
  have hnumber : resolveNumber? (String.ofList (writeInt n)) = some (.value (.int n)) := by
    have hrange : IntegerRange.of n = .held := by
      rw [IntegerRange.of, if_pos h]
    unfold resolveNumber?
    rw [String.toList_ofList]
    dsimp only
    rw [integer?_writeInt]
    dsimp only
    rw [hrange]
  unfold resolve
  rw [hnull, hbool, hnumber]
  simp [hempty]

/-! ## Strings -/

/-- A string is written plain only if it cannot be taken for another value. -/
theorem isAmbiguous_of_styleOf {s : String} (h : styleOf s = .plain) : isAmbiguous s = false := by
  have hquoted : (if allowsSingleQuotes s.toList then ScalarStyle.singleQuoted else .doubleQuoted)
      ≠ .plain := by
    split <;> decide
  unfold styleOf at h
  dsimp only at h
  split at h
  · split at h <;> cases h
  · split at h
    · exact absurd h hquoted
    · next hambiguous => exact Bool.eq_false_iff.mpr hambiguous

/-- A string in its style stands for itself. -/
theorem untaggedValue?_styleOf (s : String) :
    untaggedValue? (styleOf s) s = some (.string s) := by
  by_cases hstyle : styleOf s = .plain
  · have hambiguous := isAmbiguous_of_styleOf hstyle
    unfold isAmbiguous isSignificant at hambiguous
    have hresolve : resolve s = .value (.string s) := by
      simpa using (Bool.or_eq_false_iff.mp hambiguous).1
    rw [untaggedValue?, if_pos hstyle, hresolve]
  · rw [untaggedValue?, if_neg hstyle]

end LayeredSchema.Yaml
