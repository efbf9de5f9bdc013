import LayeredSchema.Number.Binary64

/-!
# Decimal numerals as written

A numeral keeps its digits as characters, so that a reader can decide what they denote: an exact
integer, or the double nearest to the decimal.
-/

namespace LayeredSchema

/-- A decimal numeral: sign, digits before the point, digits after it, sign and digits of the
exponent. -/
structure WrittenNumber where
  negative : Bool
  whole : List Char
  fraction : Option (List Char)
  exponent : Option (Bool × List Char)

namespace WrittenNumber

/-- The value of decimal digits. -/
def digitsValue (digits : List Char) : Nat :=
  Nat.ofDigitChars 10 digits 0

/-- Whether the numeral has neither fraction nor exponent. -/
def isIntegral (n : WrittenNumber) : Bool :=
  n.fraction.isNone && n.exponent.isNone

/-- The integer that the digits before the point denote. -/
def integer (n : WrittenNumber) : Int :=
  if n.negative then -(digitsValue n.whole : Int) else digitsValue n.whole

/-- The written exponent, zero when there is none. -/
def exponentValue (n : WrittenNumber) : Int :=
  match n.exponent with
  | none => 0
  | some (negative, digits) =>
    if negative then -(digitsValue digits : Int) else digitsValue digits

/-- The double nearest to the numeral, unless that is an infinity. -/
def nearest (n : WrittenNumber) : Option Binary64 :=
  let fraction := n.fraction.getD []
  Binary64.ofDecimal n.negative (digitsValue (n.whole ++ fraction))
    (n.exponentValue - fraction.length)

/-- Splits off the decimal digits at the front. -/
def spanDigits (cs : List Char) : List Char × List Char :=
  (cs.takeWhile Char.isDigit, cs.dropWhile Char.isDigit)

/-- Splits off an exponent, if one begins here; an exponent has at least one digit. -/
def takeExponent : List Char → Option (Option (Bool × List Char) × List Char)
  | c :: rest =>
    if c = 'e' ∨ c = 'E' then
      let (negative, rest) := match rest with
        | '-' :: more => (true, more)
        | '+' :: more => (false, more)
        | more => (false, more)
      let (digits, rest) := spanDigits rest
      if digits = [] then none else some (some (negative, digits), rest)
    else some (none, c :: rest)
  | [] => some (none, [])

end WrittenNumber

end LayeredSchema
