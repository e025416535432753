/-!
# Sets of characters as ranges of code points

The Unicode properties of this library are tables of closed ranges in ascending order.
-/

namespace RewardDesk.Text

/-- Does the code point lie in one of the ranges? -/
def inRanges (ranges : List (Nat × Nat)) (c : Char) : Bool :=
  ranges.any fun r => r.1 ≤ c.toNat && c.toNat ≤ r.2

end RewardDesk.Text
