import SourceFacts.Client.Basic
import SourceFacts.Syntax.StringText

/-!
# Addresses

The address of a request is read without evaluating it: strings, `"…".format(…)` and sums of such.
-/

namespace SourceFacts

/-- The text to which a call of `format` applies. -/
def Node.formatText? (src : Source) (call : Node) : Option StringText := do
  guard (call.kind == "call")
  let function ← call.child? "function"
  guard (function.kind == "attribute" && src.textOf (function.child? "attribute") == "format")
  let template ← (function.child? "object").bind (stringText? src)
  return { template with isTemplate := true }

/-- The node adds two operands. -/
def Node.isSum (src : Source) (n : Node) : Bool :=
  n.kind == "binary_operator" && n.contents.length == 2 &&
    (n.child? "operator").any fun o => src.text o == "+"

mutual

/-- The text of an address. -/
def addressText? (src : Source) : Node → Option StringText
  | .node l cs =>
    stringText? src (.node l cs) <|> Node.formatText? src (.node l cs) <|>
      if Node.isSum src (.node l cs) then sumText? src cs else none

/-- The texts of the content of some nodes, one after the other. -/
def sumText? (src : Source) : List Node → Option StringText
  | [] => some { content := "", isTemplate := false }
  | n :: ns =>
    if n.isContent then
      match addressText? src n, sumText? src ns with
      | some a, some b => some (a.append b)
      | _, _ => none
    else sumText? src ns

end

/-- The path of an address and how much of it is known. -/
def addressPath (src : Source) (n : Option Node) : Option String × PathKind :=
  match n.bind (addressText? src) with
  | some t => (some t.content, if t.isTemplate then .template else .literal)
  | none => (none, .unresolved)

end SourceFacts
