import LayeredSchema.Document.Value
import LayeredSchema.Number.Written

/-!
# Numbers in JSON text

Integers from `-2^63` to `2^64 - 1` are kept; every other number becomes a double by a short
computation that can miss the nearest double in its last place: at most 64 bits of digits are
taken, rounded once, and then scaled by a power of ten that is itself rounded.
-/

namespace LayeredSchema.Json

open WrittenNumber

/-- Digits collected into 64 bits, with the power of ten that is still to be applied. -/
structure Significand where
  digits : Nat
  exponent : Int

/-- Whether one more digit fits 64 bits. -/
def Significand.fits (s : Significand) (digit : Nat) : Bool :=
  fitsUnsigned 64 (s.digits * 10 + digit)

/-- Collects digits before the point; from the first one that does not fit, each only raises the
exponent. -/
def Significand.addWhole : Significand → List Char → Significand
  | s, [] => s
  | s, c :: rest =>
    let d := c.toNat - '0'.toNat
    if s.exponent = 0 ∧ s.fits d then addWhole ⟨s.digits * 10 + d, 0⟩ rest
    else addWhole ⟨s.digits, s.exponent + 1⟩ rest

/-- Collects digits after the point, up to the first one that does not fit. -/
def Significand.addFraction : Significand → List Char → Significand
  | s, [] => s
  | s, c :: rest =>
    let d := c.toNat - '0'.toNat
    if s.fits d then addFraction ⟨s.digits * 10 + d, s.exponent - 1⟩ rest else s

/-- The double nearest to a power of ten. -/
def powerOfTen (n : Nat) : Option Binary64 :=
  Binary64.ofNat? false (tenPow n)

/-- The largest power of ten that is applied in one step. -/
def greatestPower : Nat := 308

/-- Divides by `10 ^ 308` and then by the rest, each time rounding; a zero stays zero. -/
def scaleDownBy : Nat → Binary64 → Nat → Option Binary64
  | 0, x, _ => some x
  | fuel + 1, x, n =>
    if n ≤ greatestPower then do x.scaleDown (← powerOfTen n)
    else if x.units = 0 then some x
    else do scaleDownBy fuel (← x.scaleDown (← powerOfTen greatestPower)) (n - greatestPower)

/-- Applies a power of ten to a rounded significand; a result beyond the doubles is refused. -/
def scaled (x : Binary64) (exponent : Int) : Option Binary64 :=
  if 0 ≤ exponent then
    if exponent ≤ greatestPower then do x.scaleUp (← powerOfTen exponent.toNat)
    else if x.units = 0 then some x
    else none
  else scaleDownBy 4 x (-exponent).toNat

/-- The double that a numeral denotes. An exponent of more than 31 bits makes zero of what it
diminishes, and of zero itself. -/
def double (n : WrittenNumber) : Option Binary64 := do
  let s := (Significand.addWhole ⟨0, 0⟩ n.whole).addFraction (n.fraction.getD [])
  let (down, written) := match n.exponent with
    | none => (false, 0)
    | some (negative, digits) => (negative, digitsValue digits)
  if !fitsUnsigned 31 written then
    if s.digits ≠ 0 ∧ ¬ down then none else some (Binary64.zero n.negative)
  else
    let x ← Binary64.ofNat? n.negative s.digits
    scaled x (if down then s.exponent - written else s.exponent + written)

/-- The value that a numeral denotes; `-0` is a double. -/
def number (n : WrittenNumber) : Option Value :=
  if n.isIntegral ∧ fitsEither 63 n.integer ∧ ¬ (n.negative ∧ n.integer = 0) then
    some (.int n.integer)
  else (double n).map .float

/-- Splits a minus sign off the front, if there is one. -/
def takeSign : List Char → Bool × List Char
  | '-' :: rest => (true, rest)
  | cs => (false, cs)

/-- Splits the digits before the point off the front; behind a leading zero there are no more. -/
def takeWhole : List Char → List Char × List Char
  | '0' :: rest => (['0'], rest)
  | cs => spanDigits cs

/-- Splits a point and the digits behind it off the front, if there is a point. -/
def takeFraction : List Char → Option (Option (List Char) × List Char)
  | '.' :: rest =>
    let (digits, rest) := spanDigits rest
    if digits = [] then none else some (some digits, rest)
  | cs => some (none, cs)

/-- Splits a numeral off the front: no leading zeros, and a point only between digits. -/
def takeNumeral (cs : List Char) : Option (WrittenNumber × List Char) := do
  let (negative, cs) := takeSign cs
  let (whole, cs) := takeWhole cs
  if whole = [] then none
  else
    let (fraction, cs) ← takeFraction cs
    let (exponent, cs) ← takeExponent cs
    some (⟨negative, whole, fraction, exponent⟩, cs)

end LayeredSchema.Json
