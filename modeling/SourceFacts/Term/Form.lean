import Std.Data.HashMap
import SourceFacts.Term.Fault
import SourceFacts.Term.Lexer
import SourceFacts.Term.Tree

/-!
# Grammars

A grammar gives every rule some alternatives, which are tried in their order; the first one that fits
counts. What a rule gave at a place may be remembered for the next time that it is asked for there.
A rule may start with itself: then it is tried again, on top of what it gave before, as long as it
reaches further.

Some alternatives describe faults. They are tried only when a text is read for the second time,
because it is no term.
-/

namespace SourceFacts.Term

/-- What an alternative makes of its parts. -/
inductive Made where
  | tree (t : Tree)
  /-- The rule does not fit, whatever its other alternatives are. -/
  | refused
  | fault (f : Fault)
  /-- A fault if the last part ends within brackets; otherwise the rule does not fit. -/
  | faultInBrackets (f : Fault)
  /-- The constant that a number stands for. -/
  | number (t : Token)
  /-- The constant that texts one after the other stand for. -/
  | texts (l : List Token)

mutual

/-- What is asked of the tokens at a place, with rules from `ρ`. -/
inductive Form (ρ : Type) where
  | token (kind : TokenKind)
  | mark (s : String)
  /-- A name that is one of some words. -/
  | word (l : List String)
  | rule (r : ρ)
  | optional (f : Form ρ)
  | many (least : Nat) (f : Form ρ)
  /-- One or more, with a mark between any two. -/
  | separated (mark : String) (f : Form ρ)
  /-- Fits, or does not fit, and takes no token. -/
  | ahead (fits : Bool) (f : Form ρ)
  | group (l : List (Alternative ρ))
  /-- From here on no other alternative is tried. -/
  | cut

/-- Parts one after the other, and what they make. -/
inductive Alternative (ρ : Type) where
  | mk (describesFault : Bool) (parts : List (Form ρ)) (make : List Tree → Made)

end

/-- How a rule treats what it gave before. -/
inductive Keeping where
  | nothing
  /-- What it gave is remembered. -/
  | result
  /-- It starts with itself. -/
  | growth
  /-- Below it no faults are described. -/
  | plain
deriving DecidableEq

/-- A grammar. -/
structure Grammar (ρ : Type) where
  alternatives : ρ → List (Alternative ρ)
  keeping : ρ → Keeping

/-- Why reading ends. -/
inductive Failure where
  | fault (f : Fault)
  /-- A fault of a term inside a template. -/
  | inner (f : Fault)
  /-- The fault where the tokens stop. -/
  | halt (f : Fault)
  /-- Rules are nested too deeply. -/
  | tooDeep

/-- What a form gives at a place. -/
inductive Reply where
  | found (t : Tree) (place : Nat)
  | missing
  | failed (f : Failure)

/-- What parts one after the other give. -/
inductive Progress where
  /-- The trees of the parts, the latest first. -/
  | row (trees : List Tree)
  /-- A part does not fit, before or after a cut. -/
  | stuck (isCut : Bool)
  | failed (f : Failure)

/-- What is known while tokens are read. -/
structure Memory (ρ : Type) [BEq ρ] [Hashable ρ] where
  results : Std.HashMap (ρ × Nat) (Option (Tree × Nat)) := {}
  /-- How many tokens were looked at. -/
  reached : Nat := 0
  /-- Faults are described. -/
  describing : Bool := false

/-- What is read, and by which grammar. -/
structure Reader (ρ : Type) where
  grammar : Grammar ρ
  tokens : Array Token
  halt : Fault
  /-- What the tokens of a number or of texts stand for. -/
  number : Token → Except Fault Tree
  texts : List Token → Except Failure Tree

/-- The most rules that may be nested. -/
def maxDepth : Nat := 6000

namespace Reader

variable {ρ : Type} [BEq ρ] [Hashable ρ]

/-- A reply with what is known after it. -/
abbrev Answer (ρ : Type) [BEq ρ] [Hashable ρ] := Reply × Memory ρ

/-- Looks at the token at a place. -/
def look (r : Reader ρ) (place : Nat) (m : Memory ρ) : Except Failure Token × Memory ρ :=
  let m := { m with reached := max m.reached (place + 1) }
  match r.tokens[place]? with
  | some t => (.ok t, m)
  | none => (.error (.halt r.halt), m)

/-- Takes the token at a place if it satisfies a condition. -/
def take (r : Reader ρ) (fits : Token → Bool) (place : Nat) (m : Memory ρ) : Answer ρ :=
  match r.look place m with
  | (.ok t, m) => (if fits t then .found (.token t) (place + 1) else .missing, m)
  | (.error f, m) => (.failed f, m)

/-- What parts make that end before a place. -/
def finish (r : Reader ρ) (made : Made) (place : Nat) : Reply :=
  match made with
  | .tree t => .found t place
  | .refused => .missing
  | .fault f => .failed (.fault f)
  | .faultInBrackets f =>
    if (r.tokens[place - 1]?.map Token.level).getD 0 = 0 then .missing else .failed (.fault f)
  | .number t =>
    match r.number t with
    | .ok t => .found t place
    | .error f => .failed (.fault f)
  | .texts l =>
    match r.texts l with
    | .ok t => .found t place
    | .error f => .failed f

/-- The result of a rule, to be remembered. -/
def resultOf : Reply → Option (Tree × Nat)
  | .found t place => some (t, place)
  | _ => none

/-- A remembered result as a reply. -/
def replyOf : Option (Tree × Nat) → Reply
  | some (t, place) => .found t place
  | none => .missing

mutual

/-- Applies a rule at a place; `depth` rules are at work above it. -/
def runRule (r : Reader ρ) : (fuel depth : Nat) → ρ → (place : Nat) → Memory ρ → Answer ρ
  | 0, _, _, _, m => (.failed .tooDeep, m)
  | fuel + 1, depth, rule, place, m =>
    if maxDepth ≤ depth then (.failed .tooDeep, m)
    else
      match r.grammar.keeping rule with
      | .nothing => runChoices r fuel (depth + 1) (r.grammar.alternatives rule) place m
      | .plain =>
        let before := m.describing
        let (reply, m) := runChoices r fuel (depth + 1) (r.grammar.alternatives rule) place
          { m with describing := false }
        (reply, { m with describing := before })
      | .result =>
        match r.look place m with
        | (.error f, m) => (.failed f, m)
        | (.ok _, m) =>
          match m.results[(rule, place)]? with
          | some result => (replyOf result, m)
          | none =>
            let (reply, m) := runChoices r fuel (depth + 1) (r.grammar.alternatives rule) place m
            (reply, { m with results := m.results.insert (rule, place) (resultOf reply) })
      | .growth =>
        match r.look place m with
        | (.error f, m) => (.failed f, m)
        | (.ok _, m) =>
          match m.results[(rule, place)]? with
          | some result => (replyOf result, m)
          | none => runGrowth r fuel (depth + 1) rule place none m

/-- Applies a rule that starts with itself, on top of what it gave before. -/
def runGrowth (r : Reader ρ) : (fuel depth : Nat) → ρ → (place : Nat) →
    (before : Option (Tree × Nat)) → Memory ρ → Answer ρ
  | 0, _, _, _, _, m => (.failed .tooDeep, m)
  | fuel + 1, depth, rule, place, before, m =>
    if maxDepth ≤ depth then (.failed .tooDeep, m)
    else
      let m := { m with results := m.results.insert (rule, place) before }
      match runChoices r fuel (depth + 1) (r.grammar.alternatives rule) place m with
      | (.failed f, m) => (.failed f, m)
      | (.missing, m) => (replyOf before, m)
      | (.found t stop, m) =>
        if stop ≤ (before.map (·.2)).getD place then (replyOf before, m)
        else runGrowth r fuel depth rule place (some (t, stop)) m

/-- Tries alternatives in their order. -/
def runChoices (r : Reader ρ) : (fuel depth : Nat) → List (Alternative ρ) → (place : Nat) →
    Memory ρ → Answer ρ
  | 0, _, _, _, m => (.failed .tooDeep, m)
  | _, _, [], _, m => (.missing, m)
  | fuel + 1, depth, .mk describesFault parts make :: rest, place, m =>
    if describesFault && !m.describing then runChoices r fuel depth rest place m
    else
      match runParts r fuel depth parts [] false place m with
      | (.row trees, stop, m) => (r.finish (make trees.reverse) stop, m)
      | (.stuck isCut, _, m) =>
        if isCut then (.missing, m) else runChoices r fuel depth rest place m
      | (.failed f, _, m) => (.failed f, m)

/-- Takes parts one after the other; `done` are the trees of those before, the latest first. -/
def runParts (r : Reader ρ) : (fuel depth : Nat) → List (Form ρ) → (done : List Tree) →
    (isCut : Bool) → (place : Nat) → Memory ρ → Progress × Nat × Memory ρ
  | 0, _, _, _, _, place, m => (.failed .tooDeep, place, m)
  | _, _, [], done, _, place, m => (.row done, place, m)
  | fuel + 1, depth, .cut :: rest, done, _, place, m => runParts r fuel depth rest done true place m
  | fuel + 1, depth, .ahead fits f :: rest, done, isCut, place, m =>
    match runForm r fuel depth f place m with
    | (.failed f, m) => (.failed f, place, m)
    | (.found _ _, m) =>
      if fits then runParts r fuel depth rest done isCut place m else (.stuck isCut, place, m)
    | (.missing, m) =>
      if fits then (.stuck isCut, place, m) else runParts r fuel depth rest done isCut place m
  | fuel + 1, depth, f :: rest, done, isCut, place, m =>
    match runForm r fuel depth f place m with
    | (.failed f, m) => (.failed f, place, m)
    | (.missing, m) => (.stuck isCut, place, m)
    | (.found t stop, m) => runParts r fuel depth rest (t :: done) isCut stop m

/-- Applies a form at a place. -/
def runForm (r : Reader ρ) : (fuel depth : Nat) → Form ρ → (place : Nat) → Memory ρ → Answer ρ
  | 0, _, _, _, m => (.failed .tooDeep, m)
  | _, _, .token kind, place, m => r.take (fun t => t.kind == kind) place m
  | _, _, .mark s, place, m => r.take (fun t => t.isMark s) place m
  | _, _, .word l, place, m =>
    r.take (fun t => t.kind == .name && l.contains (String.ofList t.chars)) place m
  | fuel + 1, depth, .rule rule, place, m => runRule r fuel depth rule place m
  | fuel + 1, depth, .optional f, place, m =>
    match runForm r fuel depth f place m with
    | (.missing, m) => (.found .absent place, m)
    | answer => answer
  | fuel + 1, depth, .many least f, place, m =>
    if maxDepth ≤ depth then (.failed .tooDeep, m)
    else
      match runMany r fuel (depth + 1) [f] [] place m with
      | (.failed f, _, m) => (.failed f, m)
      | (.stuck _, _, m) => (.missing, m)
      | (.row trees, stop, m) =>
        (if trees.length < least then .missing else .found (.row trees.reverse) stop, m)
  | fuel + 1, depth, .separated mark f, place, m =>
    if maxDepth ≤ depth then (.failed .tooDeep, m)
    else
      match runForm r fuel (depth + 1) f place m with
      | (.found first stop, m) =>
        if maxDepth ≤ depth + 1 then (.failed .tooDeep, m)
        else
          match runMany r fuel (depth + 2) [.mark mark, f] [] stop m with
          | (.failed f, _, m) => (.failed f, m)
          | (.stuck _, _, m) => (.missing, m)
          | (.row trees, stop, m) => (.found (.row (first :: trees.reverse)) stop, m)
      | answer => answer
  | _, _, .ahead _ _, place, m => (.found .absent place, m)
  | _, _, .cut, place, m => (.found .absent place, m)
  | fuel + 1, depth, .group l, place, m =>
    if maxDepth ≤ depth then (.failed .tooDeep, m)
    else runChoices r fuel (depth + 1) l place m

/-- Takes the same parts again and again; of each time the tree of the last part counts. -/
def runMany (r : Reader ρ) : (fuel depth : Nat) → List (Form ρ) → (done : List Tree) →
    (place : Nat) → Memory ρ → Progress × Nat × Memory ρ
  | 0, _, _, _, place, m => (.failed .tooDeep, place, m)
  | fuel + 1, depth, parts, done, place, m =>
    match runParts r fuel depth parts [] false place m with
    | (.failed f, _, m) => (.failed f, place, m)
    | (.stuck _, _, m) => (.row done, place, m)
    | (.row trees, stop, m) =>
      runMany r fuel depth parts (trees.headD .absent :: done) stop m

end

end Reader

end SourceFacts.Term
