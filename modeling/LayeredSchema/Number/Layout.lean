import LayeredSchema.Number.Shortest

/-!
# How a double is written

The digits of a double are those of its shortest decimal. A `FloatLayout` says where positional
notation ends and what the exponent looks like; integral values always keep a `.0`.
-/

namespace LayeredSchema

/-- The decisions that a text format makes about its floating-point numbers. -/
structure FloatLayout where
  /-- The least position of the decimal point, counted from the first digit, written out. -/
  leastPoint : Int
  /-- The greatest position of the decimal point written out. -/
  greatestPoint : Int
  /-- Whether a positive exponent carries a sign. -/
  plusSign : Bool

namespace FloatLayout

/-- JSON text: positional from `1e-5` up to below `1e16`, exponents always signed. -/
def json : FloatLayout := ⟨-4, 16, true⟩

/-- YAML text: as in JSON, but a positive exponent has no sign. -/
def yaml : FloatLayout := ⟨-4, 16, false⟩

/-- The exponent of scientific notation. -/
def exponentText (layout : FloatLayout) (e : Int) : String :=
  if e < 0 then "-" ++ toString e.natAbs
  else (if layout.plusSign then "+" else "") ++ toString e.natAbs

/-- A magnitude with its decimal digits: `point` digits stand before the decimal point. -/
def magnitude (layout : FloatLayout) (digits : List Char) (point : Int) : String :=
  if layout.leastPoint ≤ point ∧ point ≤ layout.greatestPoint then
    if point ≤ 0 then
      "0." ++ String.ofList (List.replicate (-point).toNat '0' ++ digits)
    else if digits.length ≤ point.toNat then
      String.ofList (digits ++ List.replicate (point.toNat - digits.length) '0') ++ ".0"
    else
      String.ofList (digits.take point.toNat) ++ "." ++ String.ofList (digits.drop point.toNat)
  else
    match digits with
    | [d] => String.ofList [d] ++ "e" ++ layout.exponentText (point - 1)
    | d :: more =>
      String.ofList (d :: '.' :: more) ++ "e" ++ layout.exponentText (point - 1)
    | [] => ""

/-- The text of a finite double. -/
def write (layout : FloatLayout) (x : Binary64) : String :=
  let sign := if x.isNegative then "-" else ""
  let d := x.shortest
  if d.digits = 0 then sign ++ "0.0"
  else
    let digits := Nat.toDigits 10 d.digits
    sign ++ layout.magnitude digits (digits.length + d.exponent)

end FloatLayout

end LayeredSchema
