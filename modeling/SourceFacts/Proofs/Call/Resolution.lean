import SourceFacts.Proofs.Call.Site
import SourceFacts.Proofs.Call.Surroundings
import SourceFacts.Proofs.Symbol.Index

/-!
# What calls refer to

A rule that resolves a call names a symbol of the file or the module of a binding, and nothing else.
-/

namespace SourceFacts

namespace CallContext

variable {ctx : CallContext}

/-! ## The rules -/

theorem resolveSelf?_eq_some {chain : List Symbol} {f : Node} {r : Resolution}
    (h : ctx.resolveSelf? chain f = some r) :
    ∃ cls name counts target, ctx.index.findMethod? cls name counts = some target ∧
      r = { kind := .selfMethod, targetSymbol := some target.qualifiedName } := by
  unfold resolveSelf? at h
  split at h
  · simp only [bind, Option.bind_eq_some_iff] at h
    obtain ⟨receiver, _, member, _, ⟨method, counts⟩, _, cls, _, target, htarget, hr⟩ := h
    exact ⟨cls, _, counts, target, htarget, (Option.some.inj hr).symm⟩
  · exact absurd h (by simp)

theorem resolveSameFile?_eq_some {chain : List Symbol} {f : Node} {r : Resolution}
    (h : ctx.resolveSameFile? chain f = some r) :
    ∃ name s, ctx.visible? name chain = some s ∧
      r = { kind := .sameFile, targetSymbol := some s.qualifiedName } := by
  unfold resolveSameFile? at h
  split at h
  · obtain ⟨s, hs, hr⟩ := Option.map_eq_some_iff.mp h
    exact ⟨_, s, hs, hr.symm⟩
  · exact absurd h (by simp)

theorem resolveImported?_eq_some {chain : List Symbol} {aliases : Aliases} {f : Node}
    {r : Resolution} (h : ctx.resolveImported? chain aliases f = some r) :
    (∃ head module target, aliases.lookup head = some module ∧
      r = { kind := .importQualified, targetModule := some module
            targetSymbol := target, receiver := some head }) ∨
    ∃ name i target, ctx.importOf? chain name = some i ∧
      r = { kind := .importQualified, targetModule := some i.originModule
            targetSymbol := target } := by
  unfold resolveImported? at h
  obtain ⟨name, _, h⟩ := Option.bind_eq_some_iff.mp h
  dsimp only at h
  split at h
  · rename_i module hlookup
    exact Or.inl ⟨_, module, _, hlookup, (Option.some.inj h).symm⟩
  · obtain ⟨i, hi, hr⟩ := Option.bind_eq_some_iff.mp h
    exact Or.inr ⟨_, i, _, hi, (Option.some.inj hr).symm⟩

/-- What a call can be resolved to, one case a rule; the third rule has two. -/
theorem resolve?_cases {chain : List Symbol} {aliases : Aliases} {f : Node} {r : Resolution}
    (h : ctx.resolve? chain aliases f = some r) :
    (∃ cls name counts target, ctx.index.findMethod? cls name counts = some target ∧
      r = { kind := .selfMethod, targetSymbol := some target.qualifiedName }) ∨
    (∃ name s, ctx.visible? name chain = some s ∧
      r = { kind := .sameFile, targetSymbol := some s.qualifiedName }) ∨
    (∃ head module target, aliases.lookup head = some module ∧
      r = { kind := .importQualified, targetModule := some module
            targetSymbol := target, receiver := some head }) ∨
    ∃ name i target, ctx.importOf? chain name = some i ∧
      r = { kind := .importQualified, targetModule := some i.originModule
            targetSymbol := target } := by
  unfold resolve? at h
  cases hself : ctx.resolveSelf? chain f with
  | some r' =>
      rw [hself] at h
      cases h
      exact Or.inl (resolveSelf?_eq_some hself)
  | none =>
      cases hsame : ctx.resolveSameFile? chain f with
      | some r' =>
          rw [hself, hsame] at h
          cases h
          exact Or.inr (Or.inl (resolveSameFile?_eq_some hsame))
      | none =>
          rw [hself, hsame] at h
          exact Or.inr (Or.inr (resolveImported?_eq_some h))

theorem mem_aliasesOf {chain : List Symbol} {w : Node} {e : String × String}
    (h : e ∈ ctx.aliasesOf chain w) :
    ∃ name i, ctx.importOf? chain name = some i ∧ e.2 = i.originModule := by
  obtain ⟨item, _, hitem⟩ := List.mem_filterMap.mp (List.mem_reverse.mp h)
  unfold aliasOfItem? at hitem
  -- The import is looked up last, behind the tests of the item.
  obtain ⟨_, _, hitem⟩ := Option.bind_eq_some_iff.mp hitem
  obtain ⟨value, _, hitem⟩ := Option.bind_eq_some_iff.mp hitem
  obtain ⟨_, _, hitem⟩ := Option.bind_eq_some_iff.mp hitem
  obtain ⟨expression, _, hitem⟩ := Option.bind_eq_some_iff.mp hitem
  obtain ⟨bound, _, hitem⟩ := Option.bind_eq_some_iff.mp hitem
  obtain ⟨_, _, hitem⟩ := Option.bind_eq_some_iff.mp hitem
  obtain ⟨factory, _, hitem⟩ := Option.bind_eq_some_iff.mp hitem
  obtain ⟨i, hi, he⟩ := Option.bind_eq_some_iff.mp hitem
  exact ⟨_, i, hi, by rw [← Option.some.inj he]⟩

/-! ## Contexts that are backed -/

/-- The context knows only symbols of the list, and bindings with a property. -/
structure Backed (ctx : CallContext) (symbols : List Symbol) (bound : Import → Prop) : Prop where
  index_eq : ctx.index = SymbolIndex.ofSymbols symbols
  method_nested : ∀ s ∈ symbols, s.parent = none → s.kind ≠ .method
  symbolAt_mem : ∀ start s, ctx.symbolAt.get? start = some s → s ∈ symbols
  imports_bound : ∀ name i, ctx.imports.get? name = some i → bound i
  localImports_bound : ∀ q m name i, ctx.localImports.get? q = some m → m.get? name = some i →
    bound i

variable {symbols : List Symbol} {bound : Import → Prop}

theorem Backed.importOf? (hctx : ctx.Backed symbols bound) {chain : List Symbol} {name : String}
    {i : Import} (h : ctx.importOf? chain name = some i) : bound i := by
  unfold CallContext.importOf? at h
  rcases Option.or_eq_some_iff.mp ((Option.orElse_eq_or).symm.trans h) with h | ⟨_, h⟩
  · obtain ⟨s, _, hs⟩ := List.exists_of_findSome?_eq_some h
    obtain ⟨m, hm, hi⟩ := Option.bind_eq_some_iff.mp hs
    exact hctx.localImports_bound _ m name i hm hi
  · exact hctx.imports_bound name i h

theorem Backed.visible? (hctx : ctx.Backed symbols bound) {chain : List Symbol} {name : String}
    {s : Symbol} (h : ctx.visible? name chain = some s) : s ∈ symbols ∧ s.kind ≠ .method := by
  unfold CallContext.visible? at h
  rcases Option.or_eq_some_iff.mp ((Option.orElse_eq_or).symm.trans h) with h | ⟨_, h⟩
  · obtain ⟨scope, _, hs⟩ := List.exists_of_findSome?_eq_some h
    obtain ⟨hchild, hkind⟩ := Option.filter_eq_some_iff.mp hs
    rw [hctx.index_eq] at hchild
    exact ⟨(SymbolIndex.mem_of_child? hchild).1, of_decide_eq_true hkind⟩
  · rw [hctx.index_eq] at h
    obtain ⟨hmem, hparent⟩ := SymbolIndex.mem_of_child? h
    exact ⟨hmem, hctx.method_nested s hmem hparent⟩

/-- Along every path the scope is a symbol of the list and the names stand for modules of bindings. -/
theorem Backed.surrounded (hctx : ctx.Backed symbols bound) {n : Node} {above : List Node}
    {scope : Option Symbol} {aliases : Aliases} (h : ctx.Surrounded n above scope aliases) :
    (∀ s, scope = some s → s ∈ symbols) ∧
      ∀ e ∈ aliases, ∃ i, bound i ∧ e.2 = i.originModule := by
  induction h with
  | root n => exact ⟨fun s hs => absurd hs (by simp), fun e he => absurd he List.not_mem_nil⟩
  | definitionBody _ _ _ hs ih =>
      refine ⟨fun s heq => ?_, ih.2⟩
      cases heq
      exact hctx.symbolAt_mem _ _ hs
  | withBody _ _ _ ih =>
      refine ⟨ih.1, fun e he => ?_⟩
      rcases List.mem_append.mp he with he | he
      · obtain ⟨name, i, hi, heq⟩ := mem_aliasesOf he
        exact ⟨i, hctx.importOf? hi, heq⟩
      · exact ih.2 e he
  | elsewhere _ _ _ ih => exact ih

end CallContext

/-- What a rule found is there: a symbol of the list, or the module of a binding. -/
inductive Resolution.Refers (symbols : List Symbol) (bound : Import → Prop) : Resolution → Prop where
  | selfMethod {s : Symbol} (hs : s ∈ symbols) (hk : s.kind = .method) :
      Refers symbols bound { kind := .selfMethod, targetSymbol := some s.qualifiedName }
  | sameFile {s : Symbol} (hs : s ∈ symbols) (hk : s.kind ≠ .method) :
      Refers symbols bound { kind := .sameFile, targetSymbol := some s.qualifiedName }
  | imported {i : Import} {target receiver : Option String} (hi : bound i) :
      Refers symbols bound
        { kind := .importQualified, targetModule := some i.originModule
          targetSymbol := target, receiver := receiver }

/-- What a call names exists: its caller and the definition that it was resolved to are symbols of the
list, and the module that it was resolved to is one of a binding. -/
structure CallSite.Refers (symbols : List Symbol) (bound : Import → Prop) (c : CallSite) : Prop where
  caller : c.caller = moduleScope ∨ ∃ s ∈ symbols, c.caller = s.qualifiedName
  selfMethod : c.kind = .selfMethod → c.targetModule = none ∧
    ∃ s ∈ symbols, s.kind = .method ∧ c.targetSymbol = some s.qualifiedName
  sameFile : c.kind = .sameFile → c.targetModule = none ∧
    ∃ s ∈ symbols, s.kind ≠ .method ∧ c.targetSymbol = some s.qualifiedName
  importQualified : c.kind = .importQualified → ∃ i, bound i ∧ c.targetModule = some i.originModule
  unresolved : c.kind = .unresolved → c.targetModule = none ∧ c.targetSymbol = none
  builtin : c.isBuiltin = true → c.kind = .unresolved
  receiver : c.receiver ≠ none → c.kind = .importQualified

namespace CallContext

variable {ctx : CallContext} {symbols : List Symbol} {bound : Import → Prop}

theorem mem_of_lookup {aliases : Aliases} {head module : String}
    (h : aliases.lookup head = some module) : (head, module) ∈ aliases := by
  induction aliases with
  | nil => exact absurd h (by simp)
  | cons e rest ih =>
      obtain ⟨name, value⟩ := e
      rw [List.lookup_cons] at h
      split at h
      · rename_i heq
        cases h
        rw [beq_iff_eq.mp heq]
        exact List.mem_cons_self
      · exact List.mem_cons_of_mem _ (ih h)

theorem Backed.resolve? (hctx : ctx.Backed symbols bound) {chain : List Symbol} {aliases : Aliases}
    {f : Node} {r : Resolution} (haliases : ∀ e ∈ aliases, ∃ i, bound i ∧ e.2 = i.originModule)
    (h : ctx.resolve? chain aliases f = some r) : r.Refers symbols bound := by
  rcases resolve?_cases h with ⟨cls, name, counts, target, htarget, rfl⟩ | ⟨name, s, hs, rfl⟩ |
      ⟨head, module, target, hlookup, rfl⟩ | ⟨name, i, target, hi, rfl⟩
  · rw [hctx.index_eq] at htarget
    obtain ⟨hmem, hkind⟩ := SymbolIndex.mem_of_findMethod? htarget
    exact .selfMethod hmem hkind
  · obtain ⟨hmem, hkind⟩ := hctx.visible? hs
    exact .sameFile hmem hkind
  · obtain ⟨i, hbound, hmodule⟩ := haliases _ (mem_of_lookup hlookup)
    obtain rfl : module = i.originModule := hmodule
    exact .imported hbound
  · exact .imported (hctx.importOf? hi)

theorem Backed.refers (hctx : ctx.Backed symbols bound) {n call : Node} {above : List Node} :
    (ctx.callSite (ctx.surroundingsAt n above) call).Refers symbols bound := by
  obtain ⟨hscope, haliases⟩ := hctx.surrounded (ctx.surrounded_surroundingsAt n above)
  have hcaller : (ctx.bareSite (ctx.surroundingsAt n above) call).caller = moduleScope ∨
      ∃ s ∈ symbols,
        (ctx.bareSite (ctx.surroundingsAt n above) call).caller = s.qualifiedName := by
    unfold bareSite
    cases hs : (ctx.surroundingsAt n above).scope with
    | none => exact Or.inl rfl
    | some s => exact Or.inr ⟨s, hscope s hs, rfl⟩
  rcases ctx.callSite_cases (ctx.surroundingsAt n above) call with
    ⟨f, r, hr, hsite⟩ | ⟨isBuiltin, hsite⟩
  · rw [hsite]
    -- The kind of the call is that of the rule, so that one field says something in each case.
    cases hctx.resolve? haliases hr with
    | @selfMethod s hs hk =>
        exact
          { caller := hcaller
            selfMethod := fun _ => ⟨rfl, s, hs, hk, rfl⟩
            sameFile := by simp
            importQualified := by simp
            unresolved := by simp
            builtin := by simp [bareSite]
            receiver := by simp }
    | @sameFile s hs hk =>
        exact
          { caller := hcaller
            selfMethod := by simp
            sameFile := fun _ => ⟨rfl, s, hs, hk, rfl⟩
            importQualified := by simp
            unresolved := by simp
            builtin := by simp [bareSite]
            receiver := by simp }
    | @imported i target receiver hi =>
        exact
          { caller := hcaller
            selfMethod := by simp
            sameFile := by simp
            importQualified := fun _ => ⟨i, hi, rfl⟩
            unresolved := by simp
            builtin := by simp [bareSite]
            receiver := fun _ => rfl }
  · rw [hsite]
    exact
      { caller := hcaller
        selfMethod := by simp [bareSite]
        sameFile := by simp [bareSite]
        importQualified := by simp [bareSite]
        unresolved := fun _ => ⟨rfl, rfl⟩
        builtin := fun _ => rfl
        receiver := by simp [bareSite] }

end CallContext

end SourceFacts
