/-!
# Ranges of code points

A property of characters is given by a table: the first and the last code point of every range that has it, in
order.

* `inRanges ranges code` looks a code point up.
-/

namespace BrickControl.Text

/-- Is the code point in one of the ranges? -/
def inRanges (ranges : List (Nat × Nat)) (code : Nat) : Bool :=
  ranges.any fun range => range.1 ≤ code && code ≤ range.2

/-- A code point is in the ranges exactly if some range reaches around it. -/
theorem inRanges_iff (ranges : List (Nat × Nat)) (code : Nat) :
    inRanges ranges code = true ↔ ∃ range ∈ ranges, range.1 ≤ code ∧ code ≤ range.2 := by
  simp [inRanges, List.any_eq_true]

end BrickControl.Text
