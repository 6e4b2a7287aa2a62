/-!
# Stable sorting

Lists are sorted by a comparison; equal elements keep their order.
-/

namespace SourceFacts

/-- The list sorted by a comparison. -/
def sortBy {α : Type} (cmp : α → α → Ordering) (l : List α) : List α :=
  l.mergeSort fun a b => (cmp a b).isLE

theorem sortBy_perm {α : Type} (cmp : α → α → Ordering) (l : List α) : (sortBy cmp l).Perm l :=
  List.mergeSort_perm l _

/-- The comparison by a first key and, when that ties, by a second one. -/
def thenBy {α : Type} (first second : α → α → Ordering) (a b : α) : Ordering :=
  (first a b).then (second a b)

/-- Sorted texts without repetition. -/
def sortedSet (l : List String) : List String :=
  (sortBy compare l).eraseReps

end SourceFacts
