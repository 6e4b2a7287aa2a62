import SourceFacts.Number.Binary64
import SourceFacts.Syntax.StringText

/-!
# Literal values

The value of an expression that is written out: strings, numbers, truth values, nothing, and lists,
tuples and sets of these, which all read as lists.
-/

namespace SourceFacts

/-- A value that can be read off the source. -/
inductive Literal where
  | null
  | bool (b : Bool)
  | int (n : Int)
  /-- A binary fraction, by the bits of its 64-bit format. -/
  | float (bits : Nat)
  | text (s : String)
  | list (items : List Literal)
deriving Inhabited

/-- The text without the underscores between its digits. -/
def withoutUnderscores (s : String) : String :=
  String.ofList (s.toList.filter (· != '_'))

mutual

/-- The value of an expression, if it is written out. -/
def literal? (src : Source) : Node → Option Literal
  | .node l cs =>
    let kind := l.kind
    if kind == "string" || kind == "concatenated_string" then
      (stringText? src (.node l cs)).map fun t => .text t.content
    else if kind == "integer" then
      (Number.readInteger? (withoutUnderscores (src.text (.node l cs)))).map .int
    else if kind == "float" then
      (Number.readBinary64? (withoutUnderscores (src.text (.node l cs)))).map .float
    else if kind == "true" then some (.bool true)
    else if kind == "false" then some (.bool false)
    else if kind == "none" then some .null
    else if kind == "list" || kind == "tuple" || kind == "set" then
      (literals? src cs).map .list
    else if kind == "parenthesized_expression" then
      if (cs.filter Node.isContent).length = 1 then innerLiteral? src cs else none
    else none

/-- The values of all content among the nodes, if each has one. -/
def literals? (src : Source) : List Node → Option (List Literal)
  | [] => some []
  | n :: ns =>
    if n.isContent then
      match literal? src n, literals? src ns with
      | some v, some vs => some (v :: vs)
      | _, _ => none
    else literals? src ns

/-- The value of the first content among the nodes. -/
def innerLiteral? (src : Source) : List Node → Option Literal
  | [] => none
  | n :: ns => if n.isContent then literal? src n else innerLiteral? src ns

end

end SourceFacts
