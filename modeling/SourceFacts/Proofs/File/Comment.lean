import SourceFacts.Proofs.Dictionary
import SourceFacts.Proofs.File.Isolation
import SourceFacts.Proofs.Syntax.Comment

/-!
# Comments leave the facts of a file alone

Each stage finds in a tree what it finds in the tree without its comments, so adding comments
changes neither facts nor diagnostics.
-/

namespace SourceFacts

open Node (Overlooks)

/-! ## Definitions -/

namespace Node

variable (src : Source)

@[simp]
theorem parameterName?_bare (n : Node) : n.bare.parameterName? src = n.parameterName? src := by
  simp [parameterName?, Function.comp_def]

@[simp]
theorem parameterNames_map_bare (list : Option Node) :
    parameterNames src (list.map bare) = parameterNames src list := by
  cases list with
  | none => rfl
  | some list => simp [parameterNames, List.filterMap_map]

end Node

namespace Definitions

variable (src : Source) (file : String)

theorem problem_bare (n : Node) (message : String) :
    problem src file n.bare message = problem src file n message := by
  rw [problem, problem, Source.line_bare]

theorem functionSymbol_bare (parent : Option Symbol) (decorators : List Decorator) (name : String)
    (n : Node) :
    functionSymbol src parent decorators name n.bare =
      functionSymbol src parent decorators name n := by
  have hasync := n.hasChild_bare (show "async" ≠ "comment" by decide)
  simp only [functionSymbol, Node.child?_bare, Node.parameterNames_map_bare, Source.textOf_map_bare,
    hasync, Source.line_bare, Source.endLine_bare, Source.column_bare, Option.bind_map,
    Option.any_map, Function.comp_def, Node.docstring?_bare, Node.isStubBody_bare]

theorem baseTexts_bare (n : Node) : baseTexts src n.bare = baseTexts src n := by
  unfold baseTexts
  rw [Node.child?_bare]
  cases n.child? "superclasses" with
  | none => rfl
  | some list => simp [List.filter_map, Function.comp_def]

theorem classSymbol_bare (parent : Option Symbol) (decorators : List Decorator) (name : String)
    (n : Node) :
    classSymbol src parent decorators name n.bare = classSymbol src parent decorators name n := by
  simp only [classSymbol, Node.child?_bare, Source.line_bare, Source.endLine_bare,
    Source.column_bare, Option.bind_map, Option.any_map, Function.comp_def, Node.docstring?_bare,
    baseTexts_bare, Node.isDeclarativeBody_bare]

theorem givenName?_bare (n : Node) : givenName? src n.bare = givenName? src n := by
  unfold givenName?
  rw [Node.child?_bare]
  cases n.child? "name" <;> simp

theorem define_bare (parent : Option Symbol) (decorators : List Decorator) (n : Node)
    (inside : Symbol → Definitions) :
    define src file parent decorators n.bare inside =
      define src file parent decorators n inside := by
  simp only [define, Node.kind_bare, givenName?_bare, problem_bare, functionSymbol_bare,
    classSymbol_bare, Node.start_bare]

theorem moduleVariable_bare (n : Node) : moduleVariable src n.bare = moduleVariable src n := by
  unfold moduleVariable
  rw [Node.contents_bare, List.head?_map]
  cases n.contents.head? with
  | none => rfl
  | some e =>
      simp only [Option.map_some, Node.kind_bare, Node.child?_bare, Source.line_bare]
      cases e.child? "left" <;> simp

theorem empty_append (d : Definitions) : ({} : Definitions) ++ d = d := rfl

mutual

theorem ofStatement_bare (parent : Option Symbol) (lenient : Bool) :
    (n : Node) → ofStatement src file parent lenient n.bare = ofStatement src file parent lenient n
  | .node l cs => by
      have hdefine := define_bare src file parent [] (.node l cs)
      have hvariable := moduleVariable_bare src (.node l cs)
      have hproblem := problem_bare src file (.node l cs)
      rw [Node.bare] at hdefine hvariable hproblem ⊢
      have hdecorated := ofDecorated_bareAll parent (.node l cs) (l.kind == "string") cs
      rw [Node.bare] at hdecorated
      have hbody : (fun s => ofBody src file s (Node.bareAll (l.kind == "string") cs)) =
          fun s => ofBody src file s cs := funext fun s => ofBody_bareAll s _ cs
      rw [ofStatement, ofStatement, hdefine, hvariable, hproblem, hdecorated, hbody,
        ofClauses_bareAll parent _ cs, ofStatements_bareAll parent true _ cs]

theorem ofStatements_bareAll (parent : Option Symbol) (lenient inString : Bool) :
    (ns : List Node) → ofStatements src file parent lenient (Node.bareAll inString ns) =
      ofStatements src file parent lenient ns
  | [] => by rw [Node.bareAll]
  | n :: ns => by
      have ih := ofStatements_bareAll parent lenient inString ns
      refine Node.overlooks_isContent.bareAll_cons ?_ fun hskip => ?_
      · rw [ofStatements, ofStatements, Node.isContent_bare, ofStatement_bare parent lenient n, ih]
      · rw [ofStatements, hskip, ih]
        exact (empty_append _).symm

theorem ofBlock_bare (parent : Option Symbol) :
    (n : Node) → ofBlock src file parent n.bare = ofBlock src file parent n
  | .node l cs => by
      rw [Node.bare, ofBlock, ofBlock, ofStatements_bareAll parent false _ cs]

theorem ofBody_bareAll (parent : Symbol) (inString : Bool) :
    (ns : List Node) → ofBody src file parent (Node.bareAll inString ns) = ofBody src file parent ns
  | [] => by rw [Node.bareAll]
  | n :: ns => by
      have ih := ofBody_bareAll parent inString ns
      refine (Node.overlooks_hasField "body").bareAll_cons ?_ fun hskip => ?_
      · rw [ofBody, ofBody, Node.hasField_bare, ofBlock_bare (some parent) n, ih]
      · rw [ofBody, hskip, ih]
        rfl

theorem ofClauses_bareAll (parent : Option Symbol) (inString : Bool) :
    (ns : List Node) → ofClauses src file parent (Node.bareAll inString ns) =
      ofClauses src file parent ns
  | [] => by rw [Node.bareAll]
  | n :: ns => by
      have ih := ofClauses_bareAll parent inString ns
      refine Node.overlooks_isContent.bareAll_cons ?_ fun hskip => ?_
      · rw [ofClauses, ofClauses, Node.isContent_bare, Node.kind_bare, ofBlock_bare parent n,
          ofStatement_bare parent false n, ih]
      · rw [ofClauses, hskip, ih]
        exact (empty_append _).symm

theorem ofDecorated_bareAll (parent : Option Symbol) (whole : Node) (inString : Bool) :
    (ns : List Node) → ofDecorated src file parent whole.bare (Node.bareAll inString ns) =
      ofDecorated src file parent whole ns
  | [] => by rw [Node.bareAll, ofDecorated, ofDecorated, problem_bare]
  | n :: ns => by
      have ih := ofDecorated_bareAll parent whole inString ns
      refine (Node.overlooks_hasField "definition").bareAll_cons ?_ fun hskip => ?_
      · rw [ofDecorated, ofDecorated, Node.hasField_bare, Node.decorators_bare,
          ofDefinition_bare parent _ n, ih]
      · rw [ofDecorated, hskip, ih]
        rfl

theorem ofDefinition_bare (parent : Option Symbol) (decorators : List Decorator) :
    (n : Node) → ofDefinition src file parent decorators n.bare =
      ofDefinition src file parent decorators n
  | .node l cs => by
      have hdefine := define_bare src file parent decorators (.node l cs)
      have hbody : (fun s => ofBody src file s (Node.bareAll (l.kind == "string") cs)) =
          fun s => ofBody src file s cs := funext fun s => ofBody_bareAll s _ cs
      rw [Node.bare] at hdefine ⊢
      rw [ofDefinition, ofDefinition, hdefine, hbody]

end

theorem ofModule_bare (root : Node) : ofModule src file root.bare = ofModule src file root := by
  rw [ofModule, ofModule, Node.children_bare, ofStatements_bareAll]

end Definitions

/-! ## Imports -/

namespace ImportReading

variable (src : Source) (file : String)

theorem alias?_bare (n : Node) : alias? src n.bare = alias? src n := by
  simp [alias?]

theorem binding?_bare (line : Coordinate) (module : Option String) (n : Node) :
    binding? src line module n.bare = binding? src line module n := by
  simp [binding?, alias?_bare]

theorem ofNames_bare (n : Node) (module : Option String) (empty : String) :
    ofNames src file n.bare module empty = ofNames src file n module empty := by
  simp [ofNames, problem, Function.comp_def, binding?_bare]

@[simp]
theorem ofStatement_bare (n : Node) : ofStatement src file n.bare = ofStatement src file n := by
  have hwildcard := n.hasChild_bare (show "wildcard_import" ≠ "comment" by decide)
  unfold ofStatement
  rw [Node.label_bare, Node.kind_bare, Node.child?_bare, hwildcard, ofNames_bare]
  cases n.child? "module_name" with
  | none => simp [problem]
  | some moduleNode => simp [problem, ofNames_bare]

end ImportReading

namespace Node

theorem overlooks_isImport : Overlooks isImport where
  label := fun n => by rw [isImport, isImport, kind_bare]
  remark := fun n h => by simp [isImport, (of_isRemark_bare h).1]

theorem importsWithin_bare (n : Node) : n.bare.importsWithin = n.importsWithin.map bare :=
  overlooks_isImport.filter_walk isDefinition_bare n

theorem functions_bare (n : Node) : n.bare.functions = n.functions.map bare :=
  (overlooks_kind (by decide)).filter_walk (fun _ => rfl) n

end Node

theorem localImports?_bare (src : Source) (file : String) (n : Node) :
    localImports? src file n.bare = localImports? src file n := by
  simp [localImports?, Node.importsWithin_bare, Function.comp_def]

theorem FileImports.ofTree_bare (src : Source) (file : String) (root : Node) :
    FileImports.ofTree src file root.bare = FileImports.ofTree src file root := by
  have htop : root.bare.importsWithin.map (ImportReading.ofStatement src file) =
      root.importsWithin.map (ImportReading.ofStatement src file) := by
    simp [Node.importsWithin_bare, Function.comp_def]
  have hinner : root.bare.functions.filterMap (localImports? src file) =
      root.functions.filterMap (localImports? src file) := by
    rw [Node.functions_bare, List.filterMap_map]
    exact List.filterMap_congr fun n _ => localImports?_bare src file n
  simp only [FileImports.ofTree, htop, hinner]

/-! ## Calls -/

theorem Node.isBodyOf_bare (child parent : Node) :
    child.bare.isBodyOf parent.bare = child.isBodyOf parent := by
  simp [isBodyOf, Option.any_map]

theorem isAsyncUse_map_bare (above : List Node) :
    isAsyncUse (above.map Node.bare) = isAsyncUse above := by
  have hpart : ∀ n : Node, n.bare.isContextPart = n.isContextPart := fun n => by
    rw [Node.isContextPart, Node.isContextPart, Node.kind_bare]
  have hasync : ∀ n : Node, n.bare.hasChild "async" = n.hasChild "async" := fun n =>
    n.hasChild_bare (by decide)
  cases above with
  | nil => rfl
  | cons parent above =>
      rw [List.map_cons, isAsyncUse, isAsyncUse, ← List.map_cons, List.dropWhile_map,
        List.head?_map, Option.any_map]
      simp only [Function.comp_def, Node.kind_bare, hpart, hasync]

namespace CallContext

variable (ctx : CallContext)

theorem receiverMethod?_bare (chain : List Symbol) (n : Node) :
    ctx.receiverMethod? chain n.bare = ctx.receiverMethod? chain n := by
  simp [receiverMethod?]

theorem resolveSelf?_bare (chain : List Symbol) (n : Node) :
    ctx.resolveSelf? chain n.bare = ctx.resolveSelf? chain n := by
  simp only [resolveSelf?, Node.kind_bare, Node.child?_bare, Option.bind_eq_bind, Option.bind_map,
    Function.comp_def, receiverMethod?_bare, Source.text_bare]

theorem resolve?_bare (chain : List Symbol) (aliases : Aliases) (n : Node) :
    ctx.resolve? chain aliases n.bare = ctx.resolve? chain aliases n := by
  simp only [resolve?, resolveSelf?_bare, resolveSameFile?, resolveImported?, Node.kind_bare,
    Source.text_bare, dottedName?_bare]

theorem aliasOfItem?_bare (chain : List Symbol) (n : Node) :
    ctx.aliasOfItem? chain n.bare = ctx.aliasOfItem? chain n := by
  simp only [aliasOfItem?, Node.kind_bare, Node.child?_bare, Node.contents_bare, List.head?_map,
    Option.bind_eq_bind, Option.bind_map, Function.comp_def, Source.text_bare, Node.callee?_bare]

theorem aliasesOf_bare (chain : List Symbol) (n : Node) :
    ctx.aliasesOf chain n.bare = ctx.aliasesOf chain n := by
  have hitem : (fun item : Node => ctx.aliasOfItem? chain item.bare) = ctx.aliasOfItem? chain :=
    funext (ctx.aliasOfItem?_bare chain)
  simp only [aliasesOf, Node.contents_bare, List.filter_map, List.flatMap_map, Function.comp_def,
    Node.kind_bare, List.filterMap_flatMap, List.filterMap_map, hitem]

end CallContext

/-- What holds because of the nodes above without their comments. -/
def Surroundings.bare (s : Surroundings) : Surroundings :=
  { s with above := s.above.map Node.bare }

namespace CallContext

variable (ctx : CallContext)

theorem enter_bare (s : Surroundings) (parent child : Node) :
    ctx.enter s.bare parent.bare child.bare = (ctx.enter s parent child).bare := by
  simp only [enter, Surroundings.bare, Node.isBodyOf_bare, Node.kind_bare, Node.start_bare,
    aliasesOf_bare, List.map_cons]

theorem callSite_bare (s : Surroundings) (n : Node) :
    ctx.callSite s.bare n.bare = ctx.callSite s n := by
  unfold callSite
  rw [Node.child?_bare]
  cases n.child? "function" with
  | none => simp [Surroundings.bare, isAsyncUse_map_bare]
  | some f =>
      have htext : ctx.src.textOf (some f.bare) = ctx.src.textOf (some f) := ctx.src.text_bare f
      simp [Surroundings.bare, isAsyncUse_map_bare, resolve?_bare, htext]

mutual

theorem callsFrom_remark (s : Surroundings) :
    (n : Node) → n.bare.isRemark = true → ctx.callsFrom s n = []
  | .node l cs, h => by
      obtain ⟨hkind, -, -, hchildren⟩ := Node.of_isRemark_bare h
      have hkind : l.kind = "comment" := hkind
      have hcall : (l.kind == "call") = false := by simp [hkind]
      rw [callsFrom, callsAmong_remarks s _ cs hchildren, hcall]
      rfl

theorem callsAmong_remarks (s : Surroundings) (parent : Node) :
    (ns : List Node) → Node.bareAll false ns = [] → ctx.callsAmong s parent ns = []
  | [], _ => by rw [callsAmong]
  | n :: ns, h => by
      rw [Node.bareAll] at h
      split at h
      · cases h
      · rename_i hremark
        rw [callsAmong, callsFrom_remark _ n (by simp_all), callsAmong_remarks s parent ns h]
        rfl

end

mutual

theorem callsFrom_bare (s : Surroundings) :
    (n : Node) → ctx.callsFrom s.bare n.bare =
      (ctx.callsFrom s n).map fun c => (c.1, c.2.bare)
  | .node l cs => by
      have hsite := ctx.callSite_bare s (.node l cs)
      have hbelow := callsAmong_bareAll s (.node l cs) (l.kind == "string") cs
      rw [Node.bare] at hsite hbelow ⊢
      rw [callsFrom, callsFrom, hsite, hbelow]
      split
      · rw [List.map_cons, Node.bare]
      · rfl

theorem callsAmong_bareAll (s : Surroundings) (parent : Node) (inString : Bool) :
    (ns : List Node) → ctx.callsAmong s.bare parent.bare (Node.bareAll inString ns) =
      (ctx.callsAmong s parent ns).map fun c => (c.1, c.2.bare)
  | [] => by rw [Node.bareAll, callsAmong, callsAmong, List.map_nil]
  | n :: ns => by
      have ih := callsAmong_bareAll s parent inString ns
      rw [Node.bareAll, callsAmong, List.map_append]
      split
      · rw [callsAmong, enter_bare, callsFrom_bare _ n, ih]
      · rename_i hremark
        rw [callsFrom_remark ctx _ n (by simp_all), ih]
        rfl

end

theorem calls_bare (root : Node) :
    ctx.calls root.bare = (ctx.calls root).map fun c => (c.1, c.2.bare) :=
  ctx.callsFrom_bare {} root

end CallContext

theorem beforeMisfit_map {α β : Type} (misfit? : β → Option Misfit) (f : α → β) (l : List α) :
    beforeMisfit misfit? (l.map f) = (beforeMisfit (fun a => misfit? (f a)) l).map f := by
  rw [beforeMisfit, List.takeWhile_map]
  rfl

/-! ## Requests -/

/-- The arguments without their comments. -/
def CallArguments.bare (args : CallArguments) : CallArguments where
  positional := args.positional.map Node.bare
  keywords := args.keywords.mapValues Node.bare

theorem CallArguments.add_bare (src : Source) (args : CallArguments) (n : Node) :
    CallArguments.add src args.bare n.bare = (CallArguments.add src args n).bare := by
  unfold CallArguments.add
  rw [Node.kind_bare, Node.child?_bare, Node.child?_bare, Node.isSplat_bare]
  split
  · cases n.child? "name" with
    | none => rfl
    | some name =>
        cases n.child? "value" with
        | none => rfl
        | some value => simp [CallArguments.bare, Dictionary.put_mapValues]
  · split
    · rfl
    · simp [CallArguments.bare]

theorem CallArguments.foldl_add_bare (src : Source) (ns : List Node) (args : CallArguments) :
    ns.foldl (fun args n => CallArguments.add src args n.bare) args.bare =
      (ns.foldl (CallArguments.add src) args).bare := by
  induction ns generalizing args with
  | nil => rfl
  | cons n ns ih => rw [List.foldl_cons, List.foldl_cons, CallArguments.add_bare, ih]

theorem Node.callArguments_bare (src : Source) (n : Node) :
    n.bare.callArguments src = (n.callArguments src).bare := by
  unfold callArguments
  rw [child?_bare]
  cases n.child? "arguments" with
  | none => rfl
  | some list =>
      simp only [Option.map_some, kind_bare, contents_bare]
      split
      · rw [List.foldl_map]
        exact CallArguments.foldl_add_bare src list.contents {}
      · rfl

theorem requestOf?_bare (src : Source) (config : Config) (function : String)
    (args : CallArguments) :
    requestOf? src config function args.bare =
      (requestOf? src config function args).map fun r => (r.1, r.2.map Node.bare) := by
  have hfirst : args.bare.positional.head? = args.positional.head?.map Node.bare := List.head?_map
  have hsecond : args.bare.positional[1]? = args.positional[1]?.map Node.bare := List.getElem?_map
  have hkeyword : ∀ key, args.bare.keywords.get? key =
      (args.keywords.get? key).map Node.bare := Dictionary.get?_mapValues _ _
  have horElse : ∀ a b : Option Node, (a.map Node.bare <|> b.map Node.bare) =
      (a <|> b).map Node.bare := fun a b => by cases a <;> rfl
  unfold requestOf?
  rw [hfirst, hsecond, hkeyword, hkeyword, horElse, horElse, horElse]
  split
  · rfl
  · split
    · simp only [Option.bind_eq_bind, Option.map_bind, Option.bind_map, Function.comp_def,
        stringText?_bare]
      rfl
    · rfl

theorem CallSite.clientCall?_bare (src : Source) (config : Config) (call : CallSite) (n : Node) :
    call.clientCall? src config n.bare = call.clientCall? src config n := by
  unfold clientCall?
  simp only [Node.callArguments_bare, requestOf?_bare, Option.bind_eq_bind, Option.bind_map,
    Function.comp_def, addressPath_map_bare, Option.map_map, Source.text_bare]

theorem clientCallsOf_bare (src : Source) (config : Config) (calls : List (CallSite × Node))
    (misfits : Misfits) :
    clientCallsOf src config (calls.map fun c => (c.1, c.2.bare)) misfits =
      clientCallsOf src config calls misfits := by
  unfold clientCallsOf
  rw [beforeMisfit_map, List.filterMap_map]
  refine List.filterMap_congr fun c _ => ?_
  exact c.1.clientCall?_bare src config c.2

theorem clientCallsMisfit?_bare (config : Config) (misfits : Misfits)
    (calls : List (CallSite × Node)) :
    clientCallsMisfit? config misfits (calls.map fun c => (c.1, c.2.bare)) =
      clientCallsMisfit? config misfits calls := by
  rw [clientCallsMisfit?, clientCallsMisfit?, List.findSome?_map]
  rfl

/-! ## Mounts -/

namespace Node

variable (src : Source)

theorem mount?_bare (config : Config) (hint : Option String) (n : Node) :
    n.bare.mount? src config hint = n.mount? src config hint := by
  simp only [mount?, kind_bare, callee?_bare, child?_bare, arguments_map_bare, Source.line_bare]

theorem mountMisfit?_bare (misfits : Misfits) (n : Node) :
    n.bare.mountMisfit? src misfits = n.mountMisfit? src misfits := by
  simp only [mountMisfit?, kind_bare, callee?_bare]

theorem mount?_of_kind {config : Config} {hint : Option String} {n : Node}
    (h : (n.kind == "call") = false) : n.mount? src config hint = none := by
  rw [mount?, h]
  rfl

theorem mountMisfit?_of_kind {misfits : Misfits} {n : Node} (h : (n.kind == "call") = false) :
    n.mountMisfit? src misfits = none := by
  rw [mountMisfit?, h]
  rfl

end Node

/-- What is read off items up to a misfit depends only on the items that a test keeps, if the others
bring nothing and meet none. -/
theorem filterMap_beforeMisfit_filter {α β : Type} {misfit? : α → Option Misfit} {g : α → Option β}
    {p : α → Bool} (hmisfit : ∀ a, p a = false → misfit? a = none)
    (hg : ∀ a, p a = false → g a = none) (l : List α) :
    (beforeMisfit misfit? (l.filter p)).filterMap g = (beforeMisfit misfit? l).filterMap g := by
  induction l with
  | nil => rfl
  | cons a l ih =>
      unfold beforeMisfit at ih ⊢
      cases hp : p a with
      | true =>
          rw [List.filter_cons_of_pos hp, List.takeWhile_cons, List.takeWhile_cons]
          split
          · rw [List.filterMap_cons, List.filterMap_cons, ih]
          · rfl
      | false =>
          rw [List.filter_cons_of_neg (by simp [hp]), ih, List.takeWhile_cons, hmisfit a hp]
          simp [hg a hp]

theorem routerMountsOf_bare (src : Source) (config : Config) (hint : Option String) (root : Node)
    (misfits : Misfits) :
    routerMountsOf src config hint root.bare misfits =
      routerMountsOf src config hint root misfits := by
  have hcalls : ∀ ns : List Node,
      (beforeMisfit (Node.mountMisfit? src misfits) (ns.filter fun n => n.kind == "call")).filterMap
          (Node.mount? src config hint) =
        (beforeMisfit (Node.mountMisfit? src misfits) ns).filterMap (Node.mount? src config hint) :=
    filterMap_beforeMisfit_filter (fun _ => Node.mountMisfit?_of_kind src)
      fun _ => Node.mount?_of_kind src
  have hkind : Overlooks fun n => n.kind == "call" := Node.overlooks_kind (by decide)
  unfold routerMountsOf
  rw [← hcalls, ← hcalls (root.walk Node.isDefinition), hkind.filter_walk Node.isDefinition_bare,
    beforeMisfit_map, List.filterMap_map]
  simp only [Function.comp_def, Node.mountMisfit?_bare, Node.mount?_bare]

theorem routerMountsMisfit?_bare (src : Source) (misfits : Misfits) (root : Node) :
    routerMountsMisfit? src misfits root.bare = routerMountsMisfit? src misfits root := by
  unfold routerMountsMisfit?
  rw [← List.head?_filterMap, ← List.head?_filterMap]
  refine congrArg List.head? (Node.filterMap_walk_bare (Node.mountMisfit?_bare src misfits) ?_
    Node.isDefinition_bare root)
  intro n h
  exact Node.mountMisfit?_of_kind src (by simp [(Node.of_isRemark_bare h).1])

/-! ## Files -/

theorem Node.syntaxProblem?_bare (src : Source) (file : String) (n : Node) :
    n.bare.syntaxProblem? src file = n.syntaxProblem? src file := by
  simp only [syntaxProblem?, label_bare, kind_bare, Source.line_bare]

theorem syntaxDiagnostics_bare (src : Source) (file : String) (root : Node) :
    syntaxDiagnostics src file root.bare = syntaxDiagnostics src file root := by
  have hproblems : (root.bare.walk fun n => n.kind == "ERROR").filterMap
      (Node.syntaxProblem? src file) =
        (root.walk fun n => n.kind == "ERROR").filterMap (Node.syntaxProblem? src file) := by
    refine Node.filterMap_walk_bare (Node.syntaxProblem?_bare src file) (fun n h => ?_)
      (fun n => by rw [Node.kind_bare]) root
    obtain ⟨hkind, -, hmissing, -⟩ := Node.of_isRemark_bare h
    simp [Node.syntaxProblem?, hkind, hmissing]
  unfold syntaxDiagnostics
  rw [hproblems, Node.label_bare]

theorem Faults.run_map {α β : Type} (faults : Faults) (stage : Stage) (f : α → β)
    (found nothing : α) :
    faults.run stage (f found) (f nothing) = f (faults.run stage found nothing) := by
  unfold Faults.run
  split <;> rfl

theorem moduleFacts_bare (config : Config) (faults : Faults) (file module : String) (src : Source)
    (root : Node) (misfits : Misfits) :
    moduleFacts config faults file module src root.bare misfits =
      moduleFacts config faults file module src root misfits := by
  have hcalls : ∀ ctx : CallContext, faults.run .calls (ctx.calls root.bare) [] =
      (faults.run .calls (ctx.calls root) []).map fun c => (c.1, c.2.bare) := by
    intro ctx
    rw [ctx.calls_bare]
    exact faults.run_map .calls (List.map fun c : CallSite × Node => (c.1, c.2.bare)) _ []
  simp only [moduleFacts, FileImports.ofTree_bare, Definitions.ofModule_bare, hcalls,
    clientCallsOf_bare, clientCallsMisfit?_bare, routerMountsOf_bare, routerMountsMisfit?_bare,
    syntaxDiagnostics_bare, Node.docstring?_bare, Node.start_bare, Node.stop_bare, List.map_map,
    Function.comp_def]

theorem analyzeFile_bare (config : Config) (faults : Faults) (file : String) (src : Source)
    (root : Node) (misfits : Misfits) :
    analyzeFile config faults file src (some root.bare) misfits =
      analyzeFile config faults file src (some root) misfits := by
  simp only [analyzeFile, Node.kind_bare, moduleFacts_bare]

/-- Comments are invisible: adding comments to a tree, as children of nodes that are not strings,
changes nothing that the analysis of the file gives, and the tree of a module at a path with a name
has facts. -/
theorem comments_invisible {t t' : Node} (h : t.Commented t') (config : Config) (faults : Faults)
    (file : String) (src : Source) (misfits : Misfits) :
    analyzeFile config faults file src (some t') misfits =
        analyzeFile config faults file src (some t) misfits ∧
      (t.kind = "module" → (Path.parse file).name ≠ "" →
        ∃ f, analyzeFile config faults file src (some t) misfits = .ok (.facts f)) := by
  constructor
  · rw [← analyzeFile_bare, ← Node.bare_of_commented h, analyzeFile_bare]
  · intro hkind hname
    obtain ⟨module, hmodule⟩ := exists_moduleName hname
    exact ⟨_, analyzeFile_module config misfits faults file module src t hkind hmodule⟩

/-- A module whose only statement, its documentation, stands behind comments. -/
theorem comments_invisible_docstring :
    let module : Label := { kind := "module", start := 0, stop := 12 }
    let statement : Label := { kind := "expression_statement", start := 4, stop := 12 }
    let text : Node := .node { kind := "string", start := 8, stop := 12 } []
    let t := Node.node module [.node statement [text]]
    let t' := Node.node module [Node.remark 0 3, .node statement [Node.remark 4 7, text]]
    let src : Source := ⟨"#a\n(#b\n\"c\")".toUTF8.toList⟩
    t.Commented t' ∧
      analyzeFile {} Faults.none "a.py" src (some t') =
        analyzeFile {} Faults.none "a.py" src (some t) ∧
      ∃ f, analyzeFile {} Faults.none "a.py" src (some t) = .ok (.facts f) := by
  intro module statement text t t' src
  have hfirst : t.AddsRemark (.node module [Node.remark 0 3, .node statement [text]]) :=
    @Node.AddsRemark.here module [] [.node statement [text]] 0 3 (by decide)
  have hinner : (Node.node statement [text]).AddsRemark (.node statement [Node.remark 4 7, text]) :=
    @Node.AddsRemark.here statement [] [text] 4 7 (by decide)
  have hsecond : Node.AddsRemark (.node module [Node.remark 0 3, .node statement [text]]) t' :=
    @Node.AddsRemark.inside module [Node.remark 0 3] [] _ _ hinner
  have hcommented : t.Commented t' := .tail (.single hfirst) hsecond
  obtain ⟨heq, hfacts⟩ := comments_invisible hcommented {} Faults.none "a.py" src {}
  exact ⟨hcommented, heq, hfacts rfl (by decide)⟩

end SourceFacts
