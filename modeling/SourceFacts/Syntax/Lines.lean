import SourceFacts.Syntax.Node
import SourceFacts.Text.Dotted

/-!
# Trees in lines

A tree is written with one node a line, in pre-order. A line holds the depth of the node, its kind,
its span, its role in its parent and its marks, divided by tabs.
-/

namespace SourceFacts.Node

/-- Gives a node that stands before others, at a depth, the first of them as children. -/
def attach (line : Nat × Label) (after : List (Nat × Node)) : List (Nat × Node) :=
  let isChild (e : Nat × Node) : Bool := e.1 == line.1 + 1
  (line.1, .node line.2 ((after.takeWhile isChild).map (·.2))) :: after.dropWhile isChild

/-- The tree of nodes in pre-order with their depths. -/
def ofDepths? (lines : List (Nat × Label)) : Option Node :=
  match lines.foldr attach [] with
  | [(0, root)] => some root
  | _ => none

/-- Reads a node. The marks are `a` for a node without a name, `m` for a missing one and `e` for one
with an error; a role that lacks is empty. -/
def readLine? (line : String) : Option (Nat × Label) := do
  let [depth, kind, start, stop, role, marks] := Text.split '\t' line | none
  let marks := marks.toList
  return (← depth.toNat?, {
    kind
    start := ← start.toNat?
    stop := ← stop.toNat?
    field := if role.isEmpty then none else some role
    isNamed := !marks.contains 'a'
    isMissing := marks.contains 'm'
    hasError := marks.contains 'e' })

/-- Reads a tree. -/
def ofLines? (text : String) : Option Node :=
  (((Text.split '\n' text).filter (· != "")).mapM readLine?).bind ofDepths?

end SourceFacts.Node
