/-!
# Syntax trees

A node has a kind, a span of bytes, the field under which its parent knows it, three marks and its
children in source order. Trees need not come from a grammar: any kinds, fields and spans may occur.
-/

namespace SourceFacts

/-- What a node is, apart from its children. -/
structure Label where
  /-- The kind of the node, such as `call`. -/
  kind : String
  /-- Offset of the first byte. -/
  start : Nat
  /-- Offset behind the last byte. -/
  stop : Nat
  /-- The role of the node in its parent. -/
  field : Option String := none
  /-- Punctuation and keywords are not named. -/
  isNamed : Bool := true
  /-- The node was put in where the source lacks something. -/
  isMissing : Bool := false
  /-- The node holds an error. -/
  hasError : Bool := false
deriving Inhabited

/-- A syntax tree. -/
inductive Node where
  | node (label : Label) (children : List Node)
deriving Inhabited

namespace Node

/-- What the root is. -/
def label : Node → Label
  | .node l _ => l

/-- The children in source order. -/
def children : Node → List Node
  | .node _ cs => cs

/-- The kind of the node. -/
def kind (n : Node) : String := n.label.kind

/-- Offset of the first byte. -/
def start (n : Node) : Nat := n.label.start

/-- Offset behind the last byte. -/
def stop (n : Node) : Nat := n.label.stop

/-- The role of the node in its parent. -/
def field (n : Node) : Option String := n.label.field

/-- The node is named and is not a comment. -/
def isContent (n : Node) : Bool :=
  n.label.isNamed && n.kind != "comment"

/-- The node has the given role. -/
def hasField (f : String) (n : Node) : Bool :=
  n.field == some f

/-- The named children without comments. -/
def contents (n : Node) : List Node :=
  n.children.filter isContent

/-- The first child with the given role. -/
def child? (n : Node) (f : String) : Option Node :=
  n.children.find? (hasField f)

/-- All children with the given role. -/
def childrenWith (n : Node) (f : String) : List Node :=
  n.children.filter (hasField f)

/-- Some child has the given kind. -/
def hasChild (n : Node) (kind : String) : Bool :=
  n.children.any fun c => c.kind == kind

/-- The node defines a function or a class, with or without decorators. -/
def isDefinition (n : Node) : Bool :=
  n.kind == "function_definition" || n.kind == "class_definition" ||
    n.kind == "decorated_definition"

@[simp] theorem label_node (l : Label) (cs : List Node) : (node l cs).label = l := rfl

@[simp] theorem children_node (l : Label) (cs : List Node) : (node l cs).children = cs := rfl

theorem eta (n : Node) : node n.label n.children = n := by
  cases n
  rfl

end Node

end SourceFacts
