/-!
# Powers of two and of ten

Ranges of fixed-width integers and the fields of a double are counted in powers of two, decimals in
powers of ten.
-/

namespace LayeredSchema

/-- The power of two, which counts the words of `n` bits. -/
def twoPow (n : Nat) : Nat := Nat.pow 2 n

/-- The power of ten, which counts the decimal numerals of `n` digits. -/
def tenPow (n : Nat) : Nat := Nat.pow 10 n

/-- Whether a natural number has a word of the given number of bits. -/
def fitsUnsigned (bits n : Nat) : Bool :=
  n < twoPow bits

/-- Whether an integer has a two's-complement word of a sign and the given number of bits. -/
def fitsSigned (bits : Nat) (n : Int) : Bool :=
  -(twoPow bits : Int) ≤ n && n < twoPow bits

/-- Whether an integer has a word, signed or unsigned, of the given number of bits beside the
sign. -/
def fitsEither (bits : Nat) (n : Int) : Bool :=
  -(twoPow bits : Int) ≤ n && n < twoPow (bits + 1)

end LayeredSchema
