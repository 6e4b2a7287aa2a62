import SourceFacts.Syntax.StringText
import SourceFacts.Text.Blank

/-!
# Statements

Statements that only hold a string, an ellipsis or an annotation, and the documentation of a block.
-/

namespace SourceFacts

namespace Node

/-- The expression of a statement that is nothing but one expression. -/
def soleExpression? (n : Node) : Option Node :=
  if n.kind == "expression_statement" then
    match n.contents with
    | [e] => some e
    | _ => none
  else none

/-- The statement is a string. -/
def isStringStatement (n : Node) : Bool :=
  n.soleExpression?.any isStringLiteral

/-- The statement is an ellipsis. -/
def isEllipsisStatement (n : Node) : Bool :=
  n.soleExpression?.any fun e => e.kind == "ellipsis"

/-- The statement gives a name a type and no value. -/
def isAnnotationOnly (n : Node) : Bool :=
  n.soleExpression?.any fun e =>
    e.kind == "assignment" && (e.child? "type").isSome && (e.child? "right").isNone

/-- The documentation of a block: its first statement, if that is a string. -/
def docstring? (src : Source) (block : Node) : Option String := do
  let first ← block.contents.head?
  let e ← first.soleExpression?
  if e.isStringLiteral then
    let t ← stringText? src e
    return Text.strip t.content
  else
    none

end Node

end SourceFacts
