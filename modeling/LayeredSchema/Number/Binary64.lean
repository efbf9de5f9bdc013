import LayeredSchema.Number.Power

/-!
# Double-precision numbers as exact dyadic rationals

A `Binary64` is the 64 bits of a double. Everything below is exact arithmetic on `Nat`: the
magnitude of a finite double is `significand * 2 ^ scale / 2 ^ 1074`, and `ofRatio` rounds a
quotient of natural numbers to the nearest double, a tie going to the even significand.
-/

namespace LayeredSchema

/-- A double-precision number, given by its bits: a sign, eleven bits of exponent and 52 bits of
fraction. -/
structure Binary64 where
  bits : UInt64
  deriving DecidableEq, Inhabited

namespace Binary64

/-! ## The fields of the word -/

/-- The sign bit; it is set for negative zero too. -/
def isNegative (x : Binary64) : Bool :=
  twoPow 63 ≤ x.bits.toNat

/-- The eleven bits of biased exponent. -/
def exponentField (x : Binary64) : Nat :=
  x.bits.toNat / twoPow 52 % twoPow 11

/-- The 52 bits of fraction. -/
def fractionField (x : Binary64) : Nat :=
  x.bits.toNat % twoPow 52

/-- The integer significand: normal numbers have a leading one in front of the fraction. -/
def significand (x : Binary64) : Nat :=
  if x.exponentField = 0 then x.fractionField else twoPow 52 + x.fractionField

/-- The power of two by which the significand is scaled, counted from the smallest subnormal. -/
def scale (x : Binary64) : Nat :=
  x.exponentField - 1

/-- The unit in which magnitudes are counted is `1 / unitDenominator`, the smallest subnormal. -/
def unitDenominator : Nat := twoPow 1074

/-- The magnitude of a finite double, as a multiple of the smallest subnormal. -/
def units (x : Binary64) : Nat :=
  x.significand * twoPow x.scale

/-! ## Rounding -/

/-- Zero with a sign. -/
def zero (negative : Bool) : Binary64 :=
  ⟨if negative then 0x8000000000000000 else 0⟩

/-- The finite double of a sign and of a magnitude below infinity's bit pattern. -/
def ofMagnitudeBits (negative : Bool) (magnitude : Nat) : Binary64 :=
  ⟨UInt64.ofNat (if negative then twoPow 63 + magnitude else magnitude)⟩

/-- The bit pattern of infinity, the first one that is no finite magnitude. -/
def infinityBits : Nat := 2047 * twoPow 52

/-- A quotient rounded to the nearest integer, a tie going to the even one. -/
def roundedQuotient (num den : Nat) : Nat :=
  let q := num / den
  let r := num % den
  if 2 * r < den then q
  else if den < 2 * r then q + 1
  else if q % 2 = 0 then q else q + 1

/-- The bits of `num / den` rounded to the nearest magnitude. The scale is chosen so that the
rounded significand has 53 bits, or fewer at the smallest scale; a significand that rounds up to
`2 ^ 53` carries into the exponent field by itself. -/
def magnitudeBits (num den : Nat) : Nat :=
  let wide := num * unitDenominator
  let k := (wide / den).log2 + 1 - 53
  k * twoPow 52 + roundedQuotient wide (den * twoPow k)

/-- The double nearest to `± num / den`, unless that is an infinity. -/
def ofRatio (negative : Bool) (num den : Nat) : Option Binary64 :=
  let magnitude := magnitudeBits num den
  if magnitude < infinityBits then some (ofMagnitudeBits negative magnitude) else none

/-- The double nearest to a natural number. -/
def ofNat? (negative : Bool) (n : Nat) : Option Binary64 :=
  ofRatio negative n 1

/-- The double nearest to `± significand * 10 ^ exponent`, unless that is an infinity. Exponents
far outside the range of doubles are decided without computing the power. -/
def ofDecimal (negative : Bool) (significand : Nat) (exponent : Int) : Option Binary64 :=
  let digits : Int := (Nat.toDigits 10 significand).length
  if significand = 0 ∨ exponent + digits < -400 then some (zero negative)
  else if 400 < exponent + digits then none
  else if 0 ≤ exponent then ofRatio negative (significand * tenPow exponent.toNat) 1
  else ofRatio negative significand (tenPow (-exponent).toNat)

/-! ## Arithmetic on magnitudes -/

/-- The magnitude of a product, rounded once, with the sign of the first factor. -/
def scaleUp (x y : Binary64) : Option Binary64 :=
  ofRatio x.isNegative (x.units * y.units) (unitDenominator * unitDenominator)

/-- The magnitude of a quotient, rounded once, with the sign of the dividend. -/
def scaleDown (x y : Binary64) : Option Binary64 :=
  ofRatio x.isNegative x.units y.units

end Binary64

end LayeredSchema
