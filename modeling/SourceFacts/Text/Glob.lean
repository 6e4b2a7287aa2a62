/-!
# Name patterns

`*` stands for any characters, `?` for one, `[…]` for one of a set and `[!…]` for one outside it. A
bracket that is not closed stands for itself.

A set is a sequence of chunks: neighbouring chunks are joined by a range from the last character of
the one to the first of the other. A range whose ends are in the wrong order disappears together
with its ends. Whether the set is a negated one is read off what remains.
-/

namespace SourceFacts.Text.Glob

/-- One piece of a pattern. -/
inductive Piece where
  | anything
  | oneChar
  | literal (c : Char)
  | set (negated : Bool) (chunks : List (List Char))

/-- The chunks of a set, cut at the hyphens that make ranges. The first two characters of a chunk
never end it, nor does the first one of the set: `fresh` counts those still protected. -/
def cutChunks : (fresh : Nat) → (chunk : List Char) → List Char → List (List Char)
  | _, chunk, [] => if chunk.isEmpty then [] else [chunk.reverse]
  | 0, chunk, c :: cs =>
    if c = '-' then
      match cs with
      | [] => [(c :: chunk).reverse]
      | _ :: _ => chunk.reverse :: cutChunks 2 [] cs
    else cutChunks 0 (c :: chunk) cs
  | fresh + 1, chunk, c :: cs => cutChunks fresh (c :: chunk) cs

/-- Joins two chunks whose range is empty, dropping the ends of the range. -/
def joinEmpty (chunk : List Char) : List (List Char) → List (List Char)
  | [] => [chunk]
  | next :: rest =>
    match chunk.getLast?, next with
    | some low, high :: later =>
      if high < low then (chunk.dropLast ++ later) :: rest else chunk :: next :: rest
    | _, _ => chunk :: next :: rest

/-- The chunks without empty ranges. -/
def dropEmptyRanges (chunks : List (List Char)) : List (List Char) :=
  chunks.foldr joinEmpty []

/-- The character is in one of the chunks or in a range between two of them. The hyphen after an
empty chunk stands for itself. -/
def chunksContain (c : Char) : List (List Char) → Bool
  | [] => false
  | [chunk] => chunk.contains c
  | chunk :: next :: rest =>
    chunk.contains c ||
      (match chunk.getLast?, next with
        | some low, high :: _ => decide (low ≤ c) && decide (c ≤ high)
        | _, _ => c == '-') ||
      chunksContain c (next :: rest)

/-- The characters of a set, and what follows its closing bracket. The bracket may be the first
character of a set, also after the exclamation mark. -/
def closeSet? (cs : List Char) : Option (List Char × List Char) :=
  let (first, rest) := match cs with
    | '!' :: ']' :: rest => (['!', ']'], rest)
    | '!' :: rest => (['!'], rest)
    | ']' :: rest => ([']'], rest)
    | rest => ([], rest)
  match rest.dropWhile (· != ']') with
  | [] => none
  | _ :: after => some (first ++ rest.takeWhile (· != ']'), after)

/-- The set of the characters between brackets. -/
def makeSet (chars : List Char) : Piece :=
  let fresh := if chars.head? = some '!' then 2 else 1
  match dropEmptyRanges (cutChunks fresh [] chars) with
  | ('!' :: chunk) :: chunks => .set true (chunk :: chunks)
  | chunks => .set false chunks

/-- The piece that follows an opening bracket, and what remains. -/
def readSet? (cs : List Char) : Option (Piece × List Char) :=
  (closeSet? cs).map fun (chars, after) => (makeSet chars, after)

theorem closeSet?_length {cs chars after : List Char} (h : closeSet? cs = some (chars, after)) :
    after.length < cs.length := by
  have key : ∀ rest rest' : List Char, ∀ x : Char,
      rest.dropWhile (· != ']') = x :: rest' → rest'.length < rest.length := by
    intro rest rest' x hx
    have hs := (List.dropWhile_suffix (fun c : Char => c != ']') (l := rest)).length_le
    rw [hx, List.length_cons] at hs
    omega
  unfold closeSet? at h
  split at h
  rename_i first rest heq
  split at h
  · cases h
  · rename_i x after' hx
    have hlt := key _ _ _ hx
    simp only [Option.some.injEq, Prod.mk.injEq] at h
    obtain ⟨_, rfl⟩ := h
    split at heq <;> simp only [Prod.mk.injEq] at heq <;> obtain ⟨_, rfl⟩ := heq
    all_goals first | exact hlt | (simp only [List.length_cons]; omega)

theorem readSet?_length {cs after : List Char} {p : Piece} (h : readSet? cs = some (p, after)) :
    after.length < cs.length := by
  obtain ⟨⟨chars, rest⟩, hr, he⟩ := Option.map_eq_some_iff.1 h
  simp only [Prod.mk.injEq] at he
  obtain ⟨_, rfl⟩ := he
  exact closeSet?_length hr

/-- The pieces of a pattern. -/
def parse : List Char → List Piece
  | [] => []
  | c :: cs =>
    if c = '*' then .anything :: parse cs
    else if c = '?' then .oneChar :: parse cs
    else if c = '[' then
      match h : readSet? cs with
      | some (p, after) =>
        have : after.length < cs.length := readSet?_length h
        p :: parse after
      | none => .literal c :: parse cs
    else .literal c :: parse cs
termination_by cs => cs.length
decreasing_by all_goals simp only [List.length_cons]; omega

/-- A piece other than `*` stands for the character. -/
def Piece.accepts : Piece → Char → Bool
  | .anything, _ => true
  | .oneChar, _ => true
  | .literal d, c => d == c
  | .set negated chunks, c => chunksContain c chunks != negated

/-- The text and all its tails, the longest first. -/
def tails : List Char → List (List Char)
  | [] => [[]]
  | c :: cs => (c :: cs) :: tails cs

/-- The rests that a piece leaves of texts of which each is a tail of the one before it. -/
def Piece.advance : Piece → List (List Char) → List (List Char)
  | .anything, [] => []
  | .anything, longest :: _ => tails longest
  | p, rests => rests.filterMap fun
    | [] => none
    | c :: cs => if p.accepts c then some cs else none

/-- The pattern stands for the whole name. -/
def accepts (pattern name : String) : Bool :=
  ((parse pattern.toList).foldl (fun rests p => p.advance rests) [name.toList]).contains []

end SourceFacts.Text.Glob
