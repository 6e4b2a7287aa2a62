import SourceFacts.Call.Resolution

/-!
# The calls of a file

Every call expression of a tree gives one call site, in pre-order. The scope of a call and the
names bound by `with` statements depend on the nodes above it alone.
-/

namespace SourceFacts

/-- What holds at a node because of the nodes above it. -/
structure Surroundings where
  scope : Option Symbol := none
  aliases : Aliases := []
  /-- The nodes above, the nearest first. -/
  above : List Node := []

/-- The child is the block that is the body of its parent. -/
def Node.isBodyOf (child parent : Node) : Bool :=
  (parent.child? "body").any (fun body => child.start == body.start) && child.kind == "block"

/-- The node passes a context on to the `with` statement above it. -/
def Node.isContextPart (n : Node) : Bool :=
  n.kind == "as_pattern" || n.kind == "with_item" || n.kind == "with_clause"

/-- A node below the given ones, the nearest first, is awaited or opens an asynchronous context. -/
def isAsyncUse : List Node → Bool
  | [] => false
  | parent :: above =>
    parent.kind == "await" ||
      ((parent.kind == "as_pattern" || parent.kind == "with_item") &&
        ((parent :: above).dropWhile Node.isContextPart).head?.any fun n =>
          n.kind == "with_statement" && n.hasChild "async")

namespace CallContext

variable (ctx : CallContext)

/-- What holds at a child: the body of a definition has its symbol as scope, the body of a `with`
statement sees the names that it binds. -/
def enter (s : Surroundings) (parent child : Node) : Surroundings :=
  let inBody := child.isBodyOf parent
  let isScope := parent.kind == "function_definition" || parent.kind == "class_definition"
  { scope :=
      if isScope && inBody then ctx.symbolAt.get? parent.start <|> s.scope else s.scope
    aliases :=
      if parent.kind == "with_statement" && inBody then
        ctx.aliasesOf (ctx.index.scopeChain s.scope) parent ++ s.aliases
      else s.aliases
    above := parent :: s.above }

/-- The call site of a call expression. -/
def callSite (s : Surroundings) (call : Node) : CallSite :=
  let function := call.child? "function"
  let callee := ctx.src.textOf function
  let site : CallSite :=
    { caller := (s.scope.map (·.qualifiedName)).getD moduleScope
      callee
      kind := .unresolved
      line := some (ctx.src.line call)
      column := some (ctx.src.column call)
      isAwaited := isAsyncUse s.above }
  match function with
  | none => site
  | some f =>
    match ctx.resolve? (ctx.index.scopeChain s.scope) s.aliases f with
    | some r =>
      { site with
        kind := r.kind
        targetModule := r.targetModule
        targetSymbol := r.targetSymbol
        receiver := r.receiver }
    | none => { site with isBuiltin := f.kind == "identifier" && builtinNames.contains callee }

mutual

/-- The calls from a node on, each with its node. -/
def callsFrom (s : Surroundings) : Node → List (CallSite × Node)
  | .node l cs =>
    let below := callsAmong s (.node l cs) cs
    if l.kind == "call" then (ctx.callSite s (.node l cs), .node l cs) :: below else below

/-- The calls among some children of a node. -/
def callsAmong (s : Surroundings) (parent : Node) : List Node → List (CallSite × Node)
  | [] => []
  | c :: cs => callsFrom (ctx.enter s parent c) c ++ callsAmong s parent cs

end

/-- The calls of a tree, each with its node. -/
def calls (root : Node) : List (CallSite × Node) :=
  ctx.callsFrom {} root

end CallContext

/-- The bindings of functions by the qualified names of their symbols. -/
def localImportsByName (symbolAt : Dictionary Nat Symbol) (localMaps : Dictionary Nat ImportMap) :
    Dictionary String ImportMap :=
  Dictionary.ofList <| localMaps.entries.filterMap fun (start, map) =>
    (symbolAt.get? start).map fun s => (s.qualifiedName, map)

end SourceFacts
