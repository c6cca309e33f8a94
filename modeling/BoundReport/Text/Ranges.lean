/-!
# Ranges of code points

A class of characters is given as a list of ranges in ascending order, both ends included.
-/

namespace BoundReport

/-- Whether `n` lies in one of the ranges, which ascend; the search stops at the first range
that begins above `n`. -/
def inRanges (n : Nat) : List (Nat × Nat) → Bool
  | [] => false
  | (low, high) :: rest => if n < low then false else n ≤ high || inRanges n rest

end BoundReport
