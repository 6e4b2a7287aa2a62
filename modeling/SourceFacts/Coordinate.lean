/-!
# Coordinates

The line and the column of a fact. Lines are counted from one, columns from zero. A fact that was
not read from a source may lack them.
-/

namespace SourceFacts

/-- A line or a column, if it is known. -/
abbrev Coordinate := Option Int

/-- Where a coordinate stands in an order: one that is not known stands at zero. -/
def Coordinate.rank (c : Coordinate) : Int :=
  c.getD 0

@[simp]
theorem Coordinate.rank_some (n : Int) : Coordinate.rank (some n) = n := rfl

@[simp]
theorem Coordinate.rank_none : Coordinate.rank none = 0 := rfl

end SourceFacts
