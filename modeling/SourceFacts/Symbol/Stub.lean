import SourceFacts.Syntax.Statement

/-!
# Bodies that only declare

A function is a stub when its body only has documentation, an ellipsis, `pass` or raises
`NotImplementedError`. A class body only declares when it has nothing but methods and annotations
besides these.
-/

namespace SourceFacts.Node

/-- The name of what a statement raises. -/
def raisedName? (src : Source) (n : Node) : Option String :=
  n.contents.head?.map fun raised =>
    if raised.kind == "call" then src.textOf (raised.child? "function") else src.text raised

/-- The statement does nothing. -/
def isStubStatement (src : Source) (n : Node) : Bool :=
  n.kind == "pass_statement" || n.isStringStatement || n.isEllipsisStatement ||
    (n.kind == "raise_statement" && n.raisedName? src == some "NotImplementedError")

/-- The block has statements and none of them does anything. -/
def isStubBody (src : Source) (body : Node) : Bool :=
  !body.contents.isEmpty && body.contents.all (isStubStatement src)

/-- The statement declares a member of a class, or nothing. -/
def isDeclaration (n : Node) : Bool :=
  if n.kind == "function_definition" || n.kind == "pass_statement" then true
  else if n.kind == "decorated_definition" then
    (n.child? "definition").any fun d => d.kind == "function_definition"
  else n.isStringStatement || n.isEllipsisStatement || n.isAnnotationOnly

/-- The block has statements and each of them only declares. -/
def isDeclarativeBody (body : Node) : Bool :=
  !body.contents.isEmpty && body.contents.all isDeclaration

end SourceFacts.Node
