/-!
# Sets of code points

A character property is written as a list of closed ranges of code points, in increasing order.
-/

namespace PageListeners.Text

/-- The first and the last code point of a range. -/
abbrev CodeRange := Nat × Nat

def CodeRange.contains (r : CodeRange) (n : Nat) : Bool :=
  r.1 ≤ n && n ≤ r.2

def inRanges (ranges : List CodeRange) (c : Char) : Bool :=
  ranges.any (CodeRange.contains · c.toNat)

end PageListeners.Text
