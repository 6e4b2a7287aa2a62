import SourceFacts.Order

/-!
# Similar names

Two names are compared by the characters that they have in common: their longest common run, and
those of what stands before and after it.
-/

namespace SourceFacts.Text

/-- The length of the common start of two texts. -/
def commonStart : List Char → List Char → Nat
  | a :: as, b :: bs => if a = b then commonStart as bs + 1 else 0
  | _, _ => 0

/-- A common run: where it starts in both texts, and its length. -/
structure CommonRun where
  first : Nat := 0
  second : Nat := 0
  length : Nat := 0

/-- The longest common run; of several the one that starts first. -/
def longestRun (a b : List Char) : CommonRun :=
  let starts := (List.range a.length).flatMap fun i => (List.range b.length).map fun j => (i, j)
  starts.foldl (fun best (i, j) =>
    let length := commonStart (a.drop i) (b.drop j)
    if best.length < length then ⟨i, j, length⟩ else best) {}

/-- The number of characters in common, in at most `steps` nested steps. -/
def inCommon : (steps : Nat) → List Char → List Char → Nat
  | 0, _, _ => 0
  | steps + 1, a, b =>
    let run := longestRun a b
    if run.length = 0 then 0
    else
      inCommon steps (a.take run.first) (b.take run.second) + run.length +
        inCommon steps (a.drop (run.first + run.length)) (b.drop (run.second + run.length))

/-- How similar a name is to a word: the characters in common, among those of both. -/
structure Similarity where
  name : String
  common : Nat
  total : Nat

/-- The similarity of a name to a word. -/
def similarity (word name : String) : Similarity where
  name
  common := inCommon name.length name.toList word.toList
  total := name.length + word.length

/-- At least six tenths of the characters are in common. -/
def Similarity.isClose (s : Similarity) : Bool :=
  20 * s.common ≥ 6 * s.total

/-- The closest names to a word, at most three. -/
def closest (word : String) (names : List String) : List String :=
  let close := (names.map (similarity word)).filter Similarity.isClose
  let farther (a b : Similarity) : Ordering :=
    (compare (b.common * a.total) (a.common * b.total)).then (compare b.name a.name)
  ((sortBy farther close).take 3).map (·.name)

end SourceFacts.Text
