/-!
# Ranges of characters

Sets of characters given by closed ranges of code points.
-/

namespace SteadyLink.Text

/-- The code points from `first` to `last`, both included. -/
structure CodeRange where
  first : Nat
  last : Nat
  deriving DecidableEq, Repr

def inRanges (ranges : List CodeRange) (n : Nat) : Bool :=
  ranges.any fun r => r.first ≤ n && n ≤ r.last

end SteadyLink.Text
