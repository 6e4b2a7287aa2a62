/-!
# Patterns with choices

A pattern is tried at a place of a text, and its choices are tried in their order: the first way in
which the whole pattern fits is the one that counts. The parts that are marked in the pattern are
told by their places.
-/

namespace SourceFacts.Text

/-- A pattern. -/
inductive Pattern where
  /-- A character of a class. -/
  | one (accepts : Char → Bool)
  /-- A condition on the characters before and after the place, which takes no character. -/
  | here (holds : Option Char → Option Char → Bool)
  | nothing
  | both (first second : Pattern)
  | either (first second : Pattern)
  /-- Repetitions: at least `least` of them and at most `most`, as many as possible or as few. -/
  | many (least : Nat) (most : Option Nat) (greedy : Bool) (p : Pattern)
  /-- A part whose place is told. -/
  | mark (p : Pattern)

namespace Pattern

/-- A place in a text: the character before it, its number, and what follows. -/
structure Place where
  before : Option Char := none
  index : Nat := 0
  rest : List Char

/-- The first and the last place of marked parts, the latest first. -/
abbrev Marks := List (Nat × Nat)

/-- What is tried after a part of a pattern has fitted. -/
abbrev Next := Place → Marks → Option (Place × Marks)

/-- A number of repetitions. -/
def exactly (step : Next → Next) (next : Next) : Nat → Next
  | 0 => next
  | n + 1 => step (exactly step next n)

/-- At most a number of repetitions. -/
def atMost (step : Next → Next) (greedy : Bool) (next : Next) : Nat → Next
  | 0, p, marks => next p marks
  | n + 1, p, marks =>
    if greedy then step (atMost step greedy next n) p marks <|> next p marks
    else next p marks <|> step (atMost step greedy next n) p marks

/-- Tries a pattern and then what comes after it. -/
def run : Pattern → Next → Next
  | .one accepts, next, p, marks =>
    match p.rest with
    | c :: rest => if accepts c then next ⟨some c, p.index + 1, rest⟩ marks else none
    | [] => none
  | .here holds, next, p, marks => if holds p.before p.rest.head? then next p marks else none
  | .nothing, next, p, marks => next p marks
  | .both first second, next, p, marks => run first (run second next) p marks
  | .either first second, next, p, marks => run first next p marks <|> run second next p marks
  | .many least most greedy inner, next, p, marks =>
    exactly (run inner)
      (fun p marks =>
        atMost (run inner) greedy next ((most.getD (least + p.rest.length)) - least) p marks)
      least p marks
  | .mark inner, next, p, marks =>
    run inner (fun stop marks => next stop ((p.index, stop.index) :: marks)) p marks

/-- The place one character later. -/
def Place.next (p : Place) : Place :=
  match p.rest with
  | c :: rest => ⟨some c, p.index + 1, rest⟩
  | [] => p

/-- The marked parts where a pattern fits, from left to right and one after the other, in at most
`steps` steps. -/
def findFrom (pattern : Pattern) : (steps : Nat) → Place → Marks
  | 0, _ => []
  | steps + 1, p =>
    match pattern.run (fun p marks => some (p, marks)) p [] with
    | some (stop, marks) =>
      marks.reverse ++ findFrom pattern steps (if stop.index = p.index then p.next else stop)
    | none => findFrom pattern steps p.next

/-- The marked parts where a pattern fits, from left to right and one after the other. -/
def find (pattern : Pattern) (cs : List Char) : Marks :=
  pattern.findFrom (cs.length + 1) { rest := cs }

/-! ## Writing patterns -/

/-- Parts one after the other. -/
def sequence (l : List Pattern) : Pattern :=
  l.foldr .both .nothing

/-- The first of some choices that fits; the last one stands apart. -/
def choice (l : List Pattern) (last : Pattern) : Pattern :=
  l.foldr .either last

/-- A character. -/
def char (c : Char) : Pattern :=
  .one (· == c)

/-- A text. -/
def word (s : String) : Pattern :=
  sequence (s.toList.map char)

/-- Something or nothing. -/
def maybe (p : Pattern) : Pattern :=
  .many 0 (some 1) true p

/-- Any number of repetitions, as many as possible. -/
def any (p : Pattern) : Pattern :=
  .many 0 none true p

/-- One or more repetitions, as many as possible. -/
def atLeastOne (p : Pattern) : Pattern :=
  .many 1 none true p

end Pattern

end SourceFacts.Text
