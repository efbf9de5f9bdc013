import LayeredSchema.Number.Binary64

/-!
# The shortest decimal that reads back

Among the decimals that round to a given double, `Binary64.shortest` takes one with the fewest
significant digits, and of those the nearest to the double. For 1, 2, … 17 digits the two
neighbours of the value on that decimal grid are tested in exact arithmetic; seventeen digits
always suffice.
-/

namespace LayeredSchema

/-- The decimal `digits * 10 ^ exponent`, its last digit not zero unless it is zero. -/
structure Decimal where
  digits : Nat
  exponent : Int
  deriving DecidableEq

namespace Decimal

/-- Moves trailing zeros of the digits into the exponent, at most `fuel` of them. -/
def stripZeros : Nat → Decimal → Decimal
  | 0, d => d
  | fuel + 1, d =>
    if d.digits ≠ 0 ∧ d.digits % 10 = 0 then stripZeros fuel ⟨d.digits / 10, d.exponent + 1⟩
    else d

end Decimal

namespace Binary64

/-- The number `e` with `10 ^ (e - 1) ≤ num / den < 10 ^ e`, for a quotient below one: the count
of factors ten, at most `fuel`, that bring it up to one. -/
def leadingPlaces (num den : Nat) : Nat → Nat
  | 0 => 0
  | fuel + 1 => if den ≤ num then 0 else leadingPlaces (num * 10) den fuel + 1

/-- The number `e` with `10 ^ (e - 1) ≤ num / den < 10 ^ e`. -/
def magnitudeTen (num den : Nat) : Int :=
  if den ≤ num then ((Nat.toDigits 10 (num / den)).length : Int)
  else 1 - (leadingPlaces num den 400 : Int)

/-- The open or closed interval of values that round to a double, in quarter units. -/
structure RoundingInterval where
  low : Nat
  value : Nat
  high : Nat
  closed : Bool

/-- The values that round to `x`: half a gap to either side, the lower gap being half as wide
below a power of two; the ends belong to it when the significand is even. -/
def roundingInterval (x : Binary64) : RoundingInterval :=
  let gap := twoPow x.scale
  let lower := if x.significand = twoPow 52 ∧ 0 < x.scale then gap else 2 * gap
  { low := 4 * x.units - lower, value := 4 * x.units, high := 4 * x.units + 2 * gap,
    closed := x.significand % 2 = 0 }

/-- Whether `num / den` lies in the interval. -/
def RoundingInterval.contains (i : RoundingInterval) (num den : Nat) : Bool :=
  if i.closed then i.low * den ≤ num && num ≤ i.high * den
  else i.low * den < num && num < i.high * den

/-- The multiple of `10 ^ exponent` next to the value, below or above it, that reads back. Of two
the nearer one is taken, and of two equally near ones the even one. -/
def onGrid (i : RoundingInterval) (exponent : Int) : Option Decimal :=
  let unit := 4 * unitDenominator
  -- the value in grid steps is `num / den`, a grid point `d` in quarter units is `d * den / step`
  let up := tenPow exponent.toNat
  let down := tenPow (-exponent).toNat
  let num := i.value * down
  let den := unit * up
  let below := num / den
  let fits := fun d => i.contains (d * den) down
  let lower := if fits below then some below else none
  let upper := if fits (below + 1) then some (below + 1) else none
  let twice := 2 * (num % den)
  let chosen := match lower, upper with
    | some a, some b =>
      if twice < den then some a
      else if den < twice then some b
      else if a % 2 = 0 then some a else some b
    | some a, none => some a
    | none, other => other
  chosen.map fun d => ⟨d, exponent⟩

/-- The first grid, from the coarsest, that holds a decimal reading back. -/
def firstGrid (i : RoundingInterval) (top : Int) : Nat → Nat → Option Decimal
  | 0, _ => none
  | fuel + 1, count =>
    match onGrid i (top - count) with
    | some d => some d
    | none => firstGrid i top fuel (count + 1)

/-- The shortest decimal magnitude of a finite double that reads back as it, nearest to it among
those. -/
def shortest (x : Binary64) : Decimal :=
  if x.units = 0 then ⟨0, 0⟩
  else
    let top := magnitudeTen x.units unitDenominator
    match firstGrid x.roundingInterval top 17 1 with
    | some d => d.stripZeros 20
    | none => ⟨0, 0⟩

end Binary64

end LayeredSchema
