import LayeredSchema.Json.Reader
import LayeredSchema.Json.Writer
import LayeredSchema.Proofs.Lists
import LayeredSchema.Proofs.Text.Numeral
import Mathlib.Tactic.SplitIfs

/-!
# Strings and integers of JSON text

What is written for a string or an integer is read back from the front of a text and leaves the
rest of it. For a string this holds character by character, `takeCharacter_escaped`, and whatever
follows. The digits of an integer could go on in what follows, so `EndsNumeral` is asked of the
rest.
-/

namespace LayeredSchema.Json

open Numeral WrittenNumber

/-! ## Characters of strings -/

/-- No control character is written in a string. -/
theorem le_toNat_of_mem_escaped {c d : Char} (h : d ∈ escaped c) : 0x20 ≤ d.toNat := by
  unfold escaped at h
  split at h
  any_goals
    simp only [List.mem_cons, List.not_mem_nil, or_false] at h
    rcases h with rfl | rfl <;> decide
  split_ifs at h with hc
  · simp only [List.mem_cons] at h
    rcases h with rfl | rfl | hhex
    · decide
    · decide
    · exact (toNat_of_isDigit (isDigit_of_mem_hexPadded 4 c.toNat d hhex)).1
  · rw [List.mem_singleton] at h
    rw [h]
    omega

/-- What is written for a character does not look like the end of the string. -/
theorem escaped_eq_cons (c : Char) : ∃ d more, escaped c = d :: more ∧ d ≠ '"' := by
  unfold escaped
  split
  any_goals exact ⟨_, _, rfl, by decide⟩
  next hquote _ _ _ _ _ _ =>
    split_ifs
    · exact ⟨_, _, rfl, by decide⟩
    · exact ⟨c, [], rfl, hquote⟩

/-- The four digits of a control character stand for it, as it is no surrogate. -/
theorem takeUnicodeEscape_hexPadded {c : Char} (h : c.toNat < 0x20) (rest : List Char) :
    takeUnicodeEscape (hexPadded 4 c.toNat ++ rest) = some (c, rest) := by
  have hread : takeHex 4 (hexPadded 4 c.toNat ++ rest) = some (c.toNat, rest) :=
    takeHex_hexPadded (by decide) (Nat.lt_trans h (by decide)) rest
  have hhigh : isHighSurrogate c.toNat = false := by
    unfold isHighSurrogate
    rw [Bool.and_eq_false_iff]
    left
    rw [decide_eq_false_iff_not]
    omega
  unfold takeUnicodeEscape
  simp [hread, hhigh, scalar?_toNat]

/-- A character is read from what is written for it. -/
theorem takeCharacter_escaped (c : Char) (rest : List Char) :
    takeCharacter (escaped c ++ rest) = some (c, rest) := by
  unfold escaped
  split
  any_goals rfl
  next hquote hbackslash _ _ _ _ _ =>
    split_ifs with hcontrol
    · exact takeUnicodeEscape_hexPadded hcontrol rest
    · show takeCharacter (c :: rest) = some (c, rest)
      unfold takeCharacter
      split
      · next heq => exact absurd (List.cons.inj heq).1 hbackslash
      · next heq => exact absurd (List.cons.inj heq).1 hbackslash
      · next heq => exact absurd (List.cons.inj heq).1 hbackslash
      · next heq =>
        cases heq
        exact if_neg hcontrol
      · next heq => cases heq

/-! ## Strings -/

/-- One character of a string, and the characters that follow it. -/
theorem takeCharacters_of_ne {fuel : Nat} {c d : Char} {more rest rest' cs : List Char}
    (hd : d ≠ '"') (hc : takeCharacter (d :: more) = some (c, rest))
    (hcs : takeCharacters fuel rest = some (cs, rest')) :
    takeCharacters (fuel + 1) (d :: more) = some (c :: cs, rest') := by
  rw [takeCharacters, hc]
  · simp [hcs]
  · intro more' heq
    exact hd (List.cons.inj heq).1

/-- Escaped characters are read one by one up to the quote; every one of them takes a step. -/
theorem takeCharacters_escaped (cs rest : List Char) {fuel : Nat} (h : cs.length < fuel) :
    takeCharacters fuel (cs.flatMap escaped ++ '"' :: rest) = some (cs, rest) := by
  induction cs generalizing fuel with
  | nil =>
    cases fuel with
    | zero => cases h
    | succ fuel => rfl
  | cons c cs ih =>
    cases fuel with
    | zero => cases h
    | succ fuel =>
      have hcs : cs.length < fuel := by
        rw [List.length_cons] at h
        omega
      obtain ⟨d, more, hescaped, hd⟩ := escaped_eq_cons c
      have hfirst := takeCharacter_escaped c (cs.flatMap escaped ++ '"' :: rest)
      rw [hescaped, List.cons_append] at hfirst
      rw [List.flatMap_cons, List.append_assoc, hescaped, List.cons_append]
      exact takeCharacters_of_ne hd hfirst (ih hcs)

/-- A string is read from what is written between its quotes. -/
theorem takeString_escaped (s : String) (rest : List Char) :
    takeString (s.toList.flatMap escaped ++ '"' :: rest) = some (s, rest) := by
  have hlen : s.toList.length ≤ (s.toList.flatMap escaped).length := by
    apply length_le_length_flatMap
    intro c _ hnil
    obtain ⟨d, more, hescaped, -⟩ := escaped_eq_cons c
    rw [hescaped] at hnil
    cases hnil
  unfold takeString
  rw [takeCharacters_escaped]
  · simp
  · rw [List.length_append]
    omega

theorem quoted_append (s : String) (rest : List Char) :
    quoted s ++ rest = '"' :: (s.toList.flatMap escaped ++ '"' :: rest) := by
  simp [quoted]

/-- A quoted string is read as the string. -/
theorem takeScalar_quoted (s : String) (rest : List Char) :
    takeScalar (quoted s ++ rest) = some (.string s, rest) := by
  rw [quoted_append]
  unfold takeScalar
  simp [takeString_escaped]

/-! ## Integers -/

/-- Whether a numeral can go on with a character. -/
def continuesNumeral (c : Char) : Bool :=
  c.isDigit || c = '.' || c = 'e' || c = 'E'

/-- A text that no numeral in front of it goes on in. -/
def EndsNumeral (rest : List Char) : Prop :=
  ∀ c ∈ rest.head?, continuesNumeral c = false

theorem endsNumeral_cons {c : Char} (h : continuesNumeral c = false) (rest : List Char) :
    EndsNumeral (c :: rest) := by
  intro d hd
  rw [List.head?_cons, Option.mem_some_iff] at hd
  rw [← hd]
  exact h

/-- What ends a numeral is no digit of it. -/
theorem EndsNumeral.isDigit {c : Char} {rest : List Char} (h : EndsNumeral (c :: rest)) :
    c.isDigit = false := by
  have hc : continuesNumeral c = false := h c rfl
  unfold continuesNumeral at hc
  simp only [Bool.or_eq_false_iff] at hc
  exact hc.1.1.1

/-- All digits of a numeral are taken, and nothing behind it. -/
theorem spanDigits_append {digits rest : List Char} (hdigits : ∀ c ∈ digits, c.isDigit = true)
    (hrest : EndsNumeral rest) : spanDigits (digits ++ rest) = (digits, rest) := by
  have htake : rest.takeWhile Char.isDigit = [] := by
    cases rest with
    | nil => rfl
    | cons c more => simp [hrest.isDigit]
  have hdrop : rest.dropWhile Char.isDigit = rest := by
    cases rest with
    | nil => rfl
    | cons c more => simp [hrest.isDigit]
  unfold spanDigits
  rw [List.takeWhile_append_of_pos hdigits, List.dropWhile_append_of_pos hdigits, htake, hdrop,
    List.append_nil]

/-- An integer has no fraction. -/
theorem takeFraction_of_endsNumeral {rest : List Char} (h : EndsNumeral rest) :
    takeFraction rest = some (none, rest) := by
  unfold takeFraction
  split
  · have hpoint : continuesNumeral '.' = false := h '.' rfl
    exact absurd hpoint (by decide)
  · rfl

/-- An integer has no exponent. -/
theorem takeExponent_of_endsNumeral {rest : List Char} (h : EndsNumeral rest) :
    takeExponent rest = some (none, rest) := by
  cases rest with
  | nil => rfl
  | cons c more =>
    have hc : ¬(c = 'e' ∨ c = 'E') := by
      have hnot : continuesNumeral c = false := h c rfl
      rintro (rfl | rfl)
      · exact absurd hnot (by decide)
      · exact absurd hnot (by decide)
    exact if_neg hc

/-- Only a negative integer has a sign. -/
theorem takeSign_writeInt (n : Int) (rest : List Char) :
    takeSign (writeInt n ++ rest) = (decide (n < 0), Nat.toDigits 10 n.natAbs ++ rest) := by
  unfold writeInt
  split_ifs with hn
  · rw [decide_eq_true hn]
    rfl
  · obtain ⟨d, more, hdigits, hd, -⟩ := toDigits_eq_cons n.natAbs
    rw [decide_eq_false hn, hdigits, List.cons_append]
    unfold takeSign
    split
    · next heq =>
      rw [(List.cons.inj heq).1] at hd
      exact absurd hd (by decide)
    · rfl

/-- The digits of a number are taken as a whole: only zero starts with a zero. -/
theorem takeWhole_toDigits (n : Nat) {rest : List Char} (hrest : EndsNumeral rest) :
    takeWhole (Nat.toDigits 10 n ++ rest) = (Nat.toDigits 10 n, rest) := by
  have hspan : spanDigits (Nat.toDigits 10 n ++ rest) = (Nat.toDigits 10 n, rest) := by
    apply spanDigits_append _ hrest
    intro c hc
    exact Nat.isDigit_of_mem_toDigits (by decide) (by decide) hc
  obtain ⟨d, more, hdigits, -, hzero⟩ := toDigits_eq_cons n
  rw [hdigits, List.cons_append] at hspan ⊢
  unfold takeWhole
  split
  · next heq =>
    -- the only number whose digits start with a zero has no further digits
    have hn : n = 0 := hzero (List.cons.inj heq).1
    subst hn
    cases hdigits
    cases heq
    rfl
  · exact hspan

/-- The numeral that an integer is written as. -/
def integerNumeral (n : Int) : WrittenNumber :=
  ⟨decide (n < 0), Nat.toDigits 10 n.natAbs, none, none⟩

/-- An integer is read as the numeral that it was written as. -/
theorem takeNumeral_writeInt (n : Int) {rest : List Char} (hrest : EndsNumeral rest) :
    takeNumeral (writeInt n ++ rest) = some (integerNumeral n, rest) := by
  unfold takeNumeral
  rw [takeSign_writeInt]
  dsimp only
  rw [takeWhole_toDigits _ hrest]
  dsimp only
  rw [if_neg Nat.toDigits_ne_nil, takeFraction_of_endsNumeral hrest]
  simp [takeExponent_of_endsNumeral hrest, integerNumeral]

/-- The numeral of an integer has its value. -/
theorem integer_integerNumeral (n : Int) : (integerNumeral n).integer = n := by
  have hdigits : digitsValue (Nat.toDigits 10 n.natAbs) = n.natAbs :=
    Nat.ofDigitChars_ten_toDigits
  unfold integer integerNumeral
  rw [hdigits]
  by_cases hn : n < 0
  · rw [if_pos (by simpa using hn)]
    omega
  · rw [if_neg (by simpa using hn)]
    omega

/-- An integer that is kept stays an integer. -/
theorem number_integerNumeral {n : Int} (h : fitsEither 63 n = true) :
    number (integerNumeral n) = some (.int n) := by
  have hzero : ¬((integerNumeral n).negative = true ∧ n = 0) := by
    rintro ⟨hnegative, rfl⟩
    exact absurd hnegative (by decide)
  unfold number
  rw [integer_integerNumeral, if_pos ⟨rfl, h, hzero⟩]

/-- Whether an integer can start with a character. -/
def startsInteger (c : Char) : Bool :=
  c = '-' || c.isDigit

/-- An integer starts with a digit or a minus sign. -/
theorem writeInt_eq_cons (n : Int) : ∃ c more, writeInt n = c :: more ∧ startsInteger c = true := by
  unfold writeInt
  split_ifs
  · exact ⟨'-', _, rfl, by decide⟩
  · obtain ⟨d, more, hdigits, hd, -⟩ := toDigits_eq_cons n.natAbs
    refine ⟨d, more, hdigits, ?_⟩
    unfold startsInteger
    rw [hd, Bool.or_true]

/-- An integer that is kept is read back as it was. -/
theorem takeScalar_writeInt {n : Int} (h : fitsEither 63 n = true) {rest : List Char}
    (hrest : EndsNumeral rest) : takeScalar (writeInt n ++ rest) = some (.int n, rest) := by
  have hnumeral := takeNumeral_writeInt n hrest
  obtain ⟨c, more, hwritten, hc⟩ := writeInt_eq_cons n
  have hother {d : Char} {rest' : List Char} (hd : startsInteger d = false) :
      c :: (more ++ rest) ≠ d :: rest' := by
    intro heq
    rw [(List.cons.inj heq).1, hd] at hc
    cases hc
  rw [hwritten, List.cons_append] at hnumeral ⊢
  unfold takeScalar
  split
  · next heq => exact absurd heq (hother (by decide))
  · next heq => exact absurd heq (hother (by decide))
  · next heq => exact absurd heq (hother (by decide))
  · next heq => exact absurd heq (hother (by decide))
  · simp [hnumeral, number_integerNumeral h]

end LayeredSchema.Json
