/-!
# Ranges of code points

A property of characters is a list of closed ranges of code points.
-/

namespace Scribe.Text

/-- Whether a code point lies in one of some ranges. -/
def inRanges (ranges : List (Nat × Nat)) (n : Nat) : Bool :=
  ranges.any fun r => r.1 ≤ n && n ≤ r.2

end Scribe.Text
