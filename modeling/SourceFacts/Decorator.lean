import SourceFacts.Coordinate
import SourceFacts.Syntax.Expression
import SourceFacts.Syntax.Literal

/-!
# Decorators

A decorator as it is written: the name that is applied and, for a call, its arguments with their
values where these are written out.
-/

namespace SourceFacts

/-- An argument of a call: its text, its keyword, and its value if that is written out. -/
structure Argument where
  text : String
  keyword : Option String := none
  value : Option Literal := none

/-- A decorator: the text of its expression and the name that it applies. -/
structure Decorator where
  text : String
  callee : Option String
  line : Coordinate
  isCall : Bool := false
  arguments : List Argument := []

/-- The value is written out and is a string. -/
def Argument.stringValue? (a : Argument) : Option String :=
  match a.value with
  | some (.text s) => some s
  | _ => none

namespace Decorator

/-- The arguments without a keyword. -/
def positional (d : Decorator) : List Argument :=
  d.arguments.filter fun a => a.keyword.isNone

/-- The first argument with the given keyword. -/
def keyword? (d : Decorator) (name : String) : Option Argument :=
  d.arguments.find? fun a => a.keyword == some name

/-- The name that the decorator applies, else its text. -/
def path (d : Decorator) : String :=
  match d.callee with
  | some c => if c.isEmpty then d.text else c
  | none => d.text

end Decorator

/-- The text, unless it is empty. -/
def nonEmpty? (s : String) : Option String :=
  if s.isEmpty then none else some s

/-- Reads an argument. What is spread over arguments has no value. -/
def Node.argument (src : Source) (n : Node) : Argument :=
  if n.kind == "keyword_argument" then
    let value := n.child? "value"
    { text := src.textOf value
      keyword := nonEmpty? (src.textOf (n.child? "name"))
      value := value.bind (literal? src) }
  else if n.isSplat then { text := src.text n }
  else { text := src.text n, value := literal? src n }

/-- Reads the arguments of a call, if the node is a list of arguments. -/
def Node.arguments (src : Source) (n : Option Node) : List Argument :=
  match n with
  | some list => if list.kind == "argument_list" then list.contents.map (·.argument src) else []
  | none => []

/-- Reads a decorator; `none` when it has no expression. -/
def Node.decorator? (src : Source) (n : Node) : Option Decorator :=
  n.contents.head?.map fun e =>
    if e.kind == "call" then
      { text := src.text e
        callee := e.callee? src
        line := some (src.line n)
        isCall := true
        arguments := Node.arguments src (e.child? "arguments") }
    else { text := src.text e, callee := dottedName? src e, line := some (src.line n) }

/-- The decorators of a definition, the outermost first. -/
def Node.decorators (src : Source) (n : Node) : List Decorator :=
  (n.children.filter fun c => c.kind == "decorator").filterMap (·.decorator? src)

end SourceFacts
