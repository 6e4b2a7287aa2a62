/-!
# Character classes as tables

A class of characters is a list of runs of code points.
-/

namespace SourceFacts.Text

/-- A run of code points, both ends included. -/
abbrev CodeRange := Nat × Nat

/-- The code point lies in one of the ranges. -/
def inRanges (ranges : List CodeRange) (code : Nat) : Bool :=
  ranges.any fun r => decide (r.1 ≤ code) && decide (code ≤ r.2)

theorem inRanges_iff {ranges : List CodeRange} {code : Nat} :
    inRanges ranges code = true ↔ ∃ r ∈ ranges, r.1 ≤ code ∧ code ≤ r.2 := by
  simp [inRanges]

end SourceFacts.Text
