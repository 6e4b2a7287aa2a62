import SourceFacts.Call.Basic
import SourceFacts.Import.Basic
import SourceFacts.Symbol.Index
import SourceFacts.Syntax.Expression

/-!
# Resolving calls

The first rule that applies decides: a method called on the object or through `super()`, a name
defined in the same file, a name bound by an import or by a `with` statement.
-/

namespace SourceFacts

/-- What the calls of a file are resolved against. -/
structure CallContext where
  src : Source
  /-- The bindings of the module. -/
  imports : ImportMap := {}
  /-- Symbols by the offsets of their definitions. -/
  symbolAt : Dictionary Nat Symbol := {}
  index : SymbolIndex := {}
  /-- The bindings of functions by qualified name. -/
  localImports : Dictionary String ImportMap := {}

/-- Names bound by `with` statements with the modules they come from, the latest first. -/
abbrev Aliases := List (String × String)

/-- What a call was resolved to. -/
structure Resolution where
  kind : CallKind
  targetModule : Option String := none
  targetSymbol : Option String := none
  receiver : Option String := none

/-- The method to whose object a receiver refers, seen from a chain of scopes. Functions inside the
method see its object unless they take a parameter of that name; `none` as receiver asks for any
object. -/
def enclosingMethod? (receiver : Option String) : (shadowed : List String) → List Symbol → Option Symbol
  | _, [] => none
  | shadowed, s :: outer =>
    match s.kind with
    | .cls => none
    | .method =>
      match s.instanceParam, receiver with
      | none, _ => none
      | some _, none => some s
      | some p, some r => if p = r ∧ r ∉ shadowed then some s else none
    | .function => enclosingMethod? receiver (shadowed ++ s.parameters) outer

namespace CallContext

variable (ctx : CallContext)

/-- The method for a call on a receiver, and whether the class itself may define what is called. -/
def receiverMethod? (chain : List Symbol) (receiver : Node) : Option (Symbol × Bool) :=
  if receiver.kind == "identifier" then
    (enclosingMethod? (some (ctx.src.text receiver)) [] chain).map (·, true)
  else if receiver.kind == "call" && receiver.callee? ctx.src == some "super" then
    (enclosingMethod? none [] chain).map (·, false)
  else none

/-- The first rule: a method of the object's class or of its bases in the file. -/
def resolveSelf? (chain : List Symbol) (function : Node) : Option Resolution :=
  if function.kind == "attribute" then do
    let receiver ← function.child? "object"
    let member ← function.child? "attribute"
    let (method, counts) ← ctx.receiverMethod? chain receiver
    let cls ← ctx.index.get? method.parent
    let target ← ctx.index.findMethod? cls (ctx.src.text member) counts
    return { kind := .selfMethod, targetSymbol := some target.qualifiedName }
  else none

/-- A function or a class with a name directly in a scope. -/
def visibleIn? (name : String) (scope : Symbol) : Option Symbol :=
  (ctx.index.child? (some scope.qualifiedName) name).filter fun s => decide (s.kind ≠ .method)

/-- A definition with a name, seen from a chain of scopes: in the scope itself, in the functions
around it, in the module. The bodies of the classes around it are not seen. -/
def visible? (name : String) (chain : List Symbol) : Option Symbol :=
  let outer := chain.tail.filter fun s => decide (s.kind ≠ .cls)
  (chain.head?.toList ++ outer).findSome? (ctx.visibleIn? name) <|> ctx.index.child? none name

/-- The second rule: a name defined in the file. -/
def resolveSameFile? (chain : List Symbol) (function : Node) : Option Resolution :=
  if function.kind == "identifier" then
    (ctx.visible? (ctx.src.text function) chain).map fun s =>
      { kind := .sameFile, targetSymbol := some s.qualifiedName }
  else none

/-- The import that binds a name, seen from a chain of scopes: the innermost one counts. -/
def importOf? (chain : List Symbol) (name : String) : Option Import :=
  chain.findSome? (fun s => (ctx.localImports.get? s.qualifiedName).bind (·.get? name))
    <|> ctx.imports.get? name

/-- What is reached from a binding by the rest of a dotted name. -/
def reached (origin : Option String) (rest : String) : Option String :=
  match origin with
  | none => nonEmpty? rest
  | some symbol => if rest.isEmpty then some symbol else some (symbol ++ "." ++ rest)

/-- The third rule: a name bound by a `with` statement or by an import. -/
def resolveImported? (chain : List Symbol) (aliases : Aliases) (function : Node) :
    Option Resolution := do
  let name ← dottedName? ctx.src function
  let head := Text.firstPart name
  let rest := Text.laterParts name
  match aliases.lookup head with
  | some module =>
    return { kind := .importQualified, targetModule := some module
             targetSymbol := nonEmpty? rest, receiver := some head }
  | none =>
    let entry ← ctx.importOf? chain head
    return { kind := .importQualified, targetModule := some entry.originModule
             targetSymbol := reached entry.originSymbol rest }

/-- What a call of the function is resolved to. -/
def resolve? (chain : List Symbol) (aliases : Aliases) (function : Node) : Option Resolution :=
  ctx.resolveSelf? chain function <|> ctx.resolveSameFile? chain function <|>
    ctx.resolveImported? chain aliases function

/-- What one item of a `with` statement binds: a name for what an imported function returns. -/
def aliasOfItem? (chain : List Symbol) (item : Node) : Option (String × String) := do
  guard (item.kind == "with_item")
  let value ← item.child? "value"
  guard (value.kind == "as_pattern")
  let expression ← value.contents.head?
  let bound := ctx.src.text (← value.child? "alias")
  guard (expression.kind == "call" && Text.isIdentifier bound)
  let factory ← expression.callee? ctx.src
  let entry ← ctx.importOf? chain (Text.firstPart factory)
  return (bound, entry.originModule)

/-- What a `with` statement binds, the latest first. -/
def aliasesOf (chain : List Symbol) (statement : Node) : Aliases :=
  let clauses := statement.contents.filter fun c => c.kind == "with_clause"
  ((clauses.flatMap Node.contents).filterMap (ctx.aliasOfItem? chain)).reverse

end CallContext

end SourceFacts
