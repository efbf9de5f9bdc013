import LayeredSchema.Text.Numeral
import Mathlib.Data.List.Basic
import Mathlib.Data.Nat.Init
import Mathlib.Tactic.SplitIfs

/-!
# Numerals that are read back

The digits of a number have it as their value again, `value_toDigits`. So a reader that takes a
fixed count of hexadecimal digits finds what was written in that width, `takeHex_hexPadded`, and in
upper case too, `takeHex_hexPadded_toUpper`. In decimal digits no number but zero starts with a
zero, `head?_toDigits_ne_zero`.
-/

namespace LayeredSchema.Numeral

/-! ## Digits -/

theorem hexValue?_digitChar {d : Nat} (h : d < 16) : hexValue? d.digitChar = some d := by
  have hall : ∀ d < 16, hexValue? d.digitChar = some d := by decide
  exact hall d h

theorem digitValue?_digitChar {base d : Nat} (hbase : base ≤ 16) (h : d < base) :
    digitValue? base d.digitChar = some d := by
  have hhex : hexValue? d.digitChar = some d := hexValue?_digitChar (by omega)
  unfold digitValue?
  rw [hhex]
  exact if_pos h

theorem isDigit_digitChar {base d : Nat} (hbase : base ≤ 16) (h : d < base) :
    isDigit base d.digitChar = true := by
  unfold isDigit
  rw [digitValue?_digitChar hbase h]
  rfl

/-- A number has digits of its base only. -/
theorem isDigit_of_mem_toDigits {base : Nat} (hbase : 1 < base) (hbase' : base ≤ 16) (n : Nat) :
    ∀ c ∈ Nat.toDigits base n, isDigit base c = true := by
  induction n using Nat.strong_induction_on with
  | _ n ih =>
    intro c hc
    rw [Nat.toDigits_eq_if hbase] at hc
    by_cases hn : n < base
    · rw [if_pos hn, List.mem_singleton] at hc
      rw [hc]
      exact isDigit_digitChar hbase' hn
    · rw [if_neg hn, List.mem_append, List.mem_singleton] at hc
      rcases hc with hc | rfl
      · have hless : n / base < n := Nat.div_lt_self (by omega) hbase
        exact ih (n / base) hless c hc
      · exact isDigit_digitChar hbase' (Nat.mod_lt n (by omega))

/-- Digits are printable ASCII characters. -/
theorem toNat_of_isDigit {base : Nat} {c : Char} (h : isDigit base c = true) :
    0x20 ≤ c.toNat ∧ c.toNat ≤ 0x7E := by
  have hrange {low high : Char} (hc : low ≤ c ∧ c ≤ high) (hlow : 0x20 ≤ low.toNat)
      (hhigh : high.toNat ≤ 0x7E) : 0x20 ≤ c.toNat ∧ c.toNat ≤ 0x7E :=
    ⟨Nat.le_trans hlow (UInt32.le_iff_toNat_le.mp hc.1),
      Nat.le_trans (UInt32.le_iff_toNat_le.mp hc.2) hhigh⟩
  unfold isDigit digitValue? hexValue? at h
  split_ifs at h with hdigit hlower hupper
  · exact hrange hdigit (by decide) (by decide)
  · exact hrange hlower (by decide) (by decide)
  · exact hrange hupper (by decide) (by decide)
  · simp at h

/-! ## Values -/

theorem value_concat (base : Nat) (digits : List Char) (c : Char) :
    value base (digits ++ [c]) = value base digits * base + (digitValue? base c).getD 0 := by
  unfold value
  rw [List.foldl_append]
  rfl

theorem value_toDigits {base : Nat} (hbase : 1 < base) (hbase' : base ≤ 16) (n : Nat) :
    value base (Nat.toDigits base n) = n := by
  induction n using Nat.strong_induction_on with
  | _ n ih =>
    rw [Nat.toDigits_eq_if hbase]
    by_cases hn : n < base
    · rw [if_pos hn, ← List.nil_append [n.digitChar], value_concat,
        digitValue?_digitChar hbase' hn]
      show 0 * base + n = n
      omega
    · have hless : n / base < n := Nat.div_lt_self (by omega) hbase
      have hlast : n % base < base := Nat.mod_lt n (by omega)
      rw [if_neg hn, value_concat, ih _ hless, digitValue?_digitChar hbase' hlast]
      exact Nat.div_add_mod' n base

/-- Zeros in front do not change the value. -/
theorem value_replicate_zero_append (base count : Nat) (digits : List Char) :
    value base (List.replicate count '0' ++ digits) = value base digits := by
  have hzero : 0 * base + (digitValue? base '0').getD 0 = 0 := by
    unfold digitValue?
    rw [show hexValue? '0' = some 0 by decide]
    dsimp only
    split <;> simp
  induction count with
  | zero => rfl
  | succ count ih =>
    rw [List.replicate_succ, List.cons_append]
    unfold value at ih ⊢
    rw [List.foldl_cons, hzero]
    exact ih

/-! ## Upper case -/

/-- A hexadecimal digit has the same value in upper case. -/
theorem digitValue?_toUpper {c : Char} (h : isDigit 16 c = true) :
    digitValue? 16 c.toUpper = digitValue? 16 c := by
  have hall : ∀ n < 0x7F, isDigit 16 (Char.ofNat n) = true →
      digitValue? 16 (Char.ofNat n).toUpper = digitValue? 16 (Char.ofNat n) := by decide +kernel
  have hc := hall c.toNat (Nat.lt_succ_of_le (toNat_of_isDigit h).2)
  rw [Char.ofNat_toNat] at hc
  exact hc h

theorem isDigit_toUpper {c : Char} (h : isDigit 16 c = true) : isDigit 16 c.toUpper = true := by
  rw [isDigit, digitValue?_toUpper h]
  exact h

theorem value_map_toUpper {digits : List Char} (h : ∀ c ∈ digits, isDigit 16 c = true) :
    value 16 (digits.map Char.toUpper) = value 16 digits := by
  unfold value
  rw [List.foldl_map]
  apply List.foldl_ext
  intro n c hc
  rw [digitValue?_toUpper (h c hc)]

/-! ## Numerals of a fixed width -/

theorem length_hexPadded {width n : Nat} (hwidth : 0 < width) (h : n < Nat.pow 16 width) :
    (hexPadded width n).length = width := by
  have hlen : (Nat.toDigits 16 n).length ≤ width :=
    (Nat.length_toDigits_le_iff (by decide) hwidth).mpr h
  unfold hexPadded
  rw [List.length_append, List.length_replicate]
  omega

theorem isDigit_of_mem_hexPadded (width n : Nat) :
    ∀ c ∈ hexPadded width n, isDigit 16 c = true := by
  intro c hc
  unfold hexPadded at hc
  rcases List.mem_append.mp hc with hzero | hdigit
  · rw [List.eq_of_mem_replicate hzero]
    decide
  · exact isDigit_of_mem_toDigits (by decide) (by decide) n c hdigit

theorem value_hexPadded (width n : Nat) : value 16 (hexPadded width n) = n := by
  unfold hexPadded
  rw [value_replicate_zero_append, value_toDigits (by decide) (by decide)]

/-- Digits of the right count are read off the front of a text. -/
theorem takeHex_append {digits : List Char} (h : ∀ c ∈ digits, isDigit 16 c = true)
    (rest : List Char) :
    takeHex digits.length (digits ++ rest) = some (value 16 digits, rest) := by
  unfold takeHex
  rw [List.take_left, List.drop_left, if_pos ⟨rfl, List.all_eq_true.mpr h⟩]

/-- A number written in a width that it fits is read back from there. -/
theorem takeHex_hexPadded {width n : Nat} (hwidth : 0 < width) (h : n < Nat.pow 16 width)
    (rest : List Char) : takeHex width (hexPadded width n ++ rest) = some (n, rest) := by
  have hread := takeHex_append (isDigit_of_mem_hexPadded width n) rest
  rwa [length_hexPadded hwidth h, value_hexPadded] at hread

/-- It is read back from upper-case digits too. -/
theorem takeHex_hexPadded_toUpper {width n : Nat} (hwidth : 0 < width) (h : n < Nat.pow 16 width)
    (rest : List Char) :
    takeHex width ((hexPadded width n).map Char.toUpper ++ rest) = some (n, rest) := by
  have hdigits : ∀ c ∈ (hexPadded width n).map Char.toUpper, isDigit 16 c = true := by
    intro c hc
    obtain ⟨d, hd, rfl⟩ := List.mem_map.mp hc
    exact isDigit_toUpper (isDigit_of_mem_hexPadded width n d hd)
  have hread := takeHex_append hdigits rest
  rwa [List.length_map, length_hexPadded hwidth h,
    value_map_toUpper (isDigit_of_mem_hexPadded width n), value_hexPadded] at hread

/-! ## Code points -/

/-- A character is found under its code point. -/
theorem scalar?_toNat (c : Char) : scalar? c.toNat = some c := by
  unfold scalar?
  have hvalid : c.toNat.isValidChar := c.valid
  rw [if_pos hvalid, Char.ofNat_toNat]

/-- Eight hexadecimal digits hold every code point. -/
theorem toNat_lt (c : Char) : c.toNat < Nat.pow 16 8 := by
  have hvalid : c.toNat < 0xD800 ∨ 0xDFFF < c.toNat ∧ c.toNat < 0x110000 := c.valid
  have hless : c.toNat < 0x110000 := by omega
  exact Nat.lt_trans hless (by decide)

/-! ## Decimal numerals -/

theorem head?_toDigits_ne_zero {n : Nat} (h : 0 < n) : (Nat.toDigits 10 n).head? ≠ some '0' := by
  induction n using Nat.strong_induction_on with
  | _ n ih =>
    rw [Nat.toDigits_eq_if (by decide)]
    by_cases hn : n < 10
    · rw [if_pos hn, List.head?_singleton, Ne, Option.some.injEq, Nat.digitChar_eq_zero]
      omega
    · have hless : n / 10 < n := Nat.div_lt_self h (by decide)
      have hpos : 0 < n / 10 := by omega
      have hfirst := ih _ hless hpos
      rw [if_neg hn]
      cases hdigits : Nat.toDigits 10 (n / 10) with
      | nil => exact absurd hdigits Nat.toDigits_ne_nil
      | cons c more =>
        rw [hdigits] at hfirst
        exact hfirst

/-- The digits of a number start with a digit, which is a zero for zero only. -/
theorem toDigits_eq_cons (n : Nat) :
    ∃ d more, Nat.toDigits 10 n = d :: more ∧ d.isDigit = true ∧ (d = '0' → n = 0) := by
  cases hdigits : Nat.toDigits 10 n with
  | nil => exact absurd hdigits Nat.toDigits_ne_nil
  | cons d more =>
    have hd : d.isDigit = true := by
      apply Nat.isDigit_of_mem_toDigits (b := 10) (by decide) (by decide)
      rw [hdigits]
      exact List.mem_cons_self
    have hzero : d = '0' → n = 0 := by
      intro heq
      rcases Nat.eq_zero_or_pos n with hn | hn
      · exact hn
      · have hfirst := head?_toDigits_ne_zero hn
        rw [hdigits, heq] at hfirst
        exact absurd rfl hfirst
    exact ⟨d, more, rfl, hd, hzero⟩

end LayeredSchema.Numeral
