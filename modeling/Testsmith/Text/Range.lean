/-
# Characters given by ranges

A property of characters is held as a list of closed ranges of code points.

Key definition: `inRanges`.
-/

namespace Testsmith.Text

/-- The character lies in one of the ranges, ends included. -/
def inRanges (ranges : List (Nat × Nat)) (c : Char) : Bool :=
  ranges.any fun r => r.1 ≤ c.toNat && c.toNat ≤ r.2

end Testsmith.Text
