/-!
# Sets of characters given by ranges

A property of characters that a standard lists is kept as an array of closed ranges of code
points in ascending order.
-/

namespace Converge.Text

/-- Closed ranges of code points, in ascending order. -/
abbrev CharRanges := Array (Nat × Nat)

/-- Whether a character lies in one of the ranges. -/
def CharRanges.contains (ranges : CharRanges) (c : Char) : Bool :=
  ranges.any fun range => range.1 ≤ c.toNat && c.toNat ≤ range.2

end Converge.Text
