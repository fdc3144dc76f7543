/-
  Sets of characters given by ranges of code points.
-/

namespace Concord.Text

/-- Whether a code point lies in one of the closed ranges of a list. -/
def inRanges (ranges : List (Nat × Nat)) (n : Nat) : Bool :=
  ranges.any fun r => r.1 ≤ n && n ≤ r.2

end Concord.Text
