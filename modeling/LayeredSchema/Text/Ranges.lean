/-!
# Sets of characters given by ranges of code points

Character properties are tables of closed ranges in increasing order.
-/

namespace LayeredSchema.Text

/-- Whether a code point lies in one of the ranges. -/
def inRanges (ranges : List (Nat × Nat)) (c : Char) : Bool :=
  ranges.any fun range => range.1 ≤ c.toNat && c.toNat ≤ range.2

end LayeredSchema.Text
