/-! Sets of characters written as sorted ranges of code points. -/

namespace RouterMetrics.Text

/-- Whether a code point lies in one of the ranges, both ends included. -/
def inRanges (ranges : List (Nat × Nat)) (code : Nat) : Bool :=
  ranges.any fun range => range.1 ≤ code && code ≤ range.2

end RouterMetrics.Text
