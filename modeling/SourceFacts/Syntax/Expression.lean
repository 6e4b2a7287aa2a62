import SourceFacts.Dictionary
import SourceFacts.Syntax.Source

/-!
# Names and calls

The dotted name that an expression spells, and the arguments of a call.
-/

namespace SourceFacts

mutual

/-- The dotted name spelled by an identifier or a chain of attributes. -/
def dottedName? (src : Source) : Node → Option String
  | .node l cs =>
    if l.kind == "identifier" || l.kind == "dotted_name" then some (src.text (.node l cs))
    else if l.kind == "attribute" then
      match objectName? src cs, cs.find? (Node.hasField "attribute") with
      | some object, some member => some (object ++ "." ++ src.text member)
      | _, _ => none
    else none

/-- The dotted name of the first of the nodes that is an `object`. -/
def objectName? (src : Source) : List Node → Option String
  | [] => none
  | n :: ns => if n.hasField "object" then dottedName? src n else objectName? src ns

end

theorem objectName?_eq (src : Source) (ns : List Node) :
    objectName? src ns = (ns.find? (Node.hasField "object")).bind (dottedName? src) := by
  induction ns with
  | nil => simp [objectName?]
  | cons n ns ih =>
    by_cases h : n.hasField "object" = true <;> simp [objectName?, h, ih]

/-- The dotted name of the function that a call applies. -/
def Node.callee? (src : Source) (call : Node) : Option String :=
  (call.child? "function").bind (dottedName? src)

/-- The node spreads a sequence or a mapping over arguments. -/
def Node.isSplat (n : Node) : Bool :=
  n.kind == "list_splat" || n.kind == "dictionary_splat"

/-- The arguments of a call: the positional ones in order, and the values given to keywords. -/
structure CallArguments where
  positional : List Node := []
  keywords : Dictionary String Node := {}

/-- Adds an argument as it is written. -/
def CallArguments.add (src : Source) (args : CallArguments) (arg : Node) : CallArguments :=
  if arg.kind == "keyword_argument" then
    match arg.child? "name", arg.child? "value" with
    | some name, some value => { args with keywords := args.keywords.put (src.text name) value }
    | _, _ => args
  else if arg.isSplat then args
  else { args with positional := args.positional ++ [arg] }

/-- The arguments of a call. Spread arguments are left out. -/
def Node.callArguments (src : Source) (call : Node) : CallArguments :=
  match call.child? "arguments" with
  | some arguments =>
    if arguments.kind == "argument_list" then arguments.contents.foldl (CallArguments.add src) {}
    else {}
  | none => {}

end SourceFacts
