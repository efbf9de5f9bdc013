import LayeredSchema.Document.Value
import LayeredSchema.Number.Written
import LayeredSchema.Text.Numeral

/-!
# What a plain scalar stands for

The words for null and for the truth values, integers in four bases, and floating-point numbers
are recognized by their spelling; every other plain scalar is a string.
-/

namespace LayeredSchema.Yaml

open WrittenNumber

/-! ## Words -/

/-- Whether a text is one of the words for null. -/
def isNullWord (s : String) : Bool :=
  s = "~" || s = "null" || s = "Null" || s = "NULL"

/-- The truth value that a word stands for. -/
def boolWord? (s : String) : Option Bool :=
  if s = "true" ∨ s = "True" ∨ s = "TRUE" then some true
  else if s = "false" ∨ s = "False" ∨ s = "FALSE" then some false
  else none

/-! ## Integers -/

/-- A text without its sign, and whether that is a minus. -/
def splitSign : List Char → Bool × List Char
  | '-' :: rest => (true, rest)
  | '+' :: rest => (false, rest)
  | cs => (false, cs)

/-- Whether digits behind a sign start with a zero that is not alone; these are strings. -/
def hasLeadingZero (s : List Char) : Bool :=
  let digits := (splitSign s).2
  1 < digits.length && digits.head? = some '0' && digits.all Char.isDigit

/-- The value of an unsigned integer in the base that its first characters name. -/
def unsigned? : List Char → Option Nat
  | '0' :: 'x' :: digits => Numeral.value? 16 digits
  | '0' :: 'o' :: digits => Numeral.value? 8 digits
  | '0' :: 'b' :: digits => Numeral.value? 2 digits
  | digits => Numeral.value? 10 digits

/-- The integer that a text denotes, of any size. -/
def integer? (s : List Char) : Option Int :=
  if hasLeadingZero s then none
  else
    let (negative, digits) := splitSign s
    (unsigned? digits).map fun n => if negative then -(n : Int) else n

/-- An integer by the range that it lies in. -/
inductive IntegerRange where
  /-- Documents can hold it. -/
  | held
  /-- It is read as an integer that documents cannot hold. -/
  | tooWide
  /-- It is beyond all integers. -/
  | beyond
  deriving DecidableEq

/-- The range of an integer: 64 bits are held, up to 128 bits are integers. -/
def IntegerRange.of (n : Int) : IntegerRange :=
  if fitsEither 63 n then .held
  else if fitsEither 127 n then .tooWide
  else .beyond

/-! ## Floating-point numbers -/

/-- A floating-point number that a text denotes. -/
inductive FloatText where
  | finite (x : Binary64)
  /-- An infinity or no number; documents hold null instead. -/
  | special
  deriving DecidableEq

/-- The value as a document holds it. -/
def FloatText.value : FloatText → Value
  | finite x => .float x
  | special => .null

/-- Whether a text without a plus sign is a word for an infinity. -/
def isInfinityWord (cs : List Char) : Bool :=
  cs = ".inf".toList || cs = ".Inf".toList || cs = ".INF".toList

/-- Whether a text is a word for no number. -/
def isNanWord (cs : List Char) : Bool :=
  cs = ".nan".toList || cs = ".NaN".toList || cs = ".NAN".toList

/-- The decimal that a text denotes: digits on at least one side of the point, and possibly an
exponent. -/
def decimal? (s : List Char) : Option WrittenNumber := do
  let (negative, cs) := splitSign s
  let (whole, cs) := spanDigits cs
  let (fraction, cs) := match cs with
    | '.' :: rest =>
      let (digits, rest) := spanDigits rest
      (some digits, rest)
    | _ => (none, cs)
  if whole = [] ∧ fraction.getD [] = [] then none
  else
    let (exponent, cs) ← takeExponent cs
    if cs = [] then some ⟨negative, whole, fraction, exponent⟩ else none

/-- The floating-point number that a text denotes; a decimal whose nearest double is infinite is
none. -/
def float? (s : List Char) : Option FloatText :=
  let (_, unsigned) := splitSign s
  if isInfinityWord unsigned || isNanWord s then some .special
  else (decimal? s).bind fun n => n.nearest.map .finite

/-! ## Resolution -/

/-- What a plain scalar turns out to be. -/
inductive Resolved where
  | value (v : Value)
  /-- An integer that documents cannot hold. -/
  | unholdable
  deriving DecidableEq

/-- The value of an integer or a floating-point number, if a text denotes one. -/
def resolveNumber? (s : String) : Option Resolved :=
  let cs := s.toList
  let float := if hasLeadingZero cs then none else (float? cs).map fun x => .value x.value
  match integer? cs with
  | none => float
  | some n =>
    match IntegerRange.of n with
    | .held => some (.value (.int n))
    | .tooWide => some .unholdable
    | .beyond => float

/-- What a plain scalar without a tag stands for. -/
def resolve (s : String) : Resolved :=
  if s = "" ∨ isNullWord s then .value .null
  else
    match boolWord? s with
    | some b => .value (.bool b)
    | none => (resolveNumber? s).getD (.value (.string s))

/-- Whether a plain scalar stands for anything but its own text. -/
def isSignificant (s : String) : Bool :=
  resolve s ≠ .value (.string s)

end LayeredSchema.Yaml
