/-!
Sets of code points, written as lists of ranges.
-/

namespace BucketClock.Text

/-- Whether `n` lies in one of the ranges, both ends included. -/
def inRanges (ranges : List (Nat × Nat)) (n : Nat) : Bool :=
  ranges.any fun r => r.1 ≤ n && n ≤ r.2

end BucketClock.Text
