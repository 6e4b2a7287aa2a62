import Mathlib.Data.List.Forall2
import SourceFacts.Proofs.Call.LoopedWalk
import SourceFacts.Proofs.Call.Resolution

/-!
# Imports come last

The first two rules ask for the symbols of the file alone, and they are tried before the third one. So
whatever is imported, and whatever names `with` statements bind to it, a call that one of them resolves
stays as it is, and no other call gets a target in the file. Where a symbol is its own parent it can depend
on the imports whether the calls are found at all.
-/

namespace SourceFacts

/-- The call is resolved to a definition of the file. -/
def CallSite.IsLocal (c : CallSite) : Prop :=
  c.kind = .selfMethod ∨ c.kind = .sameFile

/-- The call is resolved to something imported, or to nothing. -/
def CallSite.IsForeign (c : CallSite) : Prop :=
  c.kind = .importQualified ∨ c.kind = .unresolved

theorem CallSite.isForeign_iff_not_isLocal (c : CallSite) : c.IsForeign ↔ ¬ c.IsLocal := by
  unfold IsForeign IsLocal
  cases c.kind <;> simp

/-- Two calls agree on who calls what and where. They are the same call if one of them is resolved to a
definition of the file; else neither is. -/
structure CallSite.AgreesOnFile (c c' : CallSite) : Prop where
  caller : c'.caller = c.caller
  callee : c'.callee = c.callee
  line : c'.line = c.line
  column : c'.column = c.column
  isAwaited : c'.isAwaited = c.isAwaited
  same : c.IsLocal ∨ c'.IsLocal → c' = c
  foreign : ¬ c.IsLocal → c.IsForeign ∧ c'.IsForeign

namespace CallContext

variable (ctx : CallContext)

/-! ## The first two rules -/

/-- What one of the first two rules finds for a call. -/
def localRule? (s : Surroundings) (call : Node) : Option Resolution :=
  (call.child? "function").bind fun f =>
    ctx.resolveSelf? (ctx.index.scopeChain s.scope) f <|>
      ctx.resolveSameFile? (ctx.index.scopeChain s.scope) f

variable {ctx} {s : Surroundings} {call : Node}

theorem localRule?_eq_some {r : Resolution} (h : ctx.localRule? s call = some r) :
    r.kind = .selfMethod ∨ r.kind = .sameFile := by
  obtain ⟨f, _, hf⟩ := Option.bind_eq_some_iff.mp h
  rcases Option.or_eq_some_iff.mp ((Option.orElse_eq_or).symm.trans hf) with hself | ⟨_, hsame⟩
  · obtain ⟨cls, name, counts, target, _, rfl⟩ := resolveSelf?_eq_some hself
    exact Or.inl rfl
  · obtain ⟨name, target, _, rfl⟩ := resolveSameFile?_eq_some hsame
    exact Or.inr rfl

theorem resolve?_of_localRule {r : Resolution} (h : ctx.localRule? s call = some r) {f : Node}
    (hfunction : call.child? "function" = some f) (aliases : Aliases) :
    ctx.resolve? (ctx.index.scopeChain s.scope) aliases f = some r := by
  have hf : (ctx.resolveSelf? (ctx.index.scopeChain s.scope) f <|>
      ctx.resolveSameFile? (ctx.index.scopeChain s.scope) f) = some r := by
    simpa [localRule?, hfunction] using h
  unfold resolve?
  cases hself : ctx.resolveSelf? (ctx.index.scopeChain s.scope) f with
  | some r' =>
      rw [hself] at hf
      exact hf
  | none =>
      rw [hself] at hf
      change ctx.resolveSameFile? (ctx.index.scopeChain s.scope) f = some r at hf
      rw [hf]
      rfl

theorem callSite_of_localRule {r : Resolution} (h : ctx.localRule? s call = some r) :
    ctx.callSite s call =
      { ctx.bareSite s call with
        kind := r.kind
        targetModule := r.targetModule
        targetSymbol := r.targetSymbol
        receiver := r.receiver } := by
  obtain ⟨f, hfunction, _⟩ := Option.bind_eq_some_iff.mp h
  unfold callSite bareSite
  simp only [hfunction, resolve?_of_localRule h hfunction]

theorem target_of_localRule {r : Resolution} (h : ctx.localRule? s call = some r) :
    (ctx.callSite s call).targetModule = r.targetModule ∧
      (ctx.callSite s call).targetSymbol = r.targetSymbol := by
  rw [callSite_of_localRule h]
  exact ⟨rfl, rfl⟩

/-- Where the first two rules find nothing, the third one is asked. -/
theorem resolve?_of_no_localRule (h : ctx.localRule? s call = none) {f : Node}
    (hfunction : call.child? "function" = some f) (aliases : Aliases) :
    ctx.resolve? (ctx.index.scopeChain s.scope) aliases f =
      ctx.resolveImported? (ctx.index.scopeChain s.scope) aliases f := by
  have hrules : (ctx.resolveSelf? (ctx.index.scopeChain s.scope) f <|>
      ctx.resolveSameFile? (ctx.index.scopeChain s.scope) f) = none := by
    simpa [localRule?, hfunction] using h
  obtain ⟨hself, hsame⟩ := Option.or_eq_none_iff.mp ((Option.orElse_eq_or).symm.trans hrules)
  unfold resolve?
  rw [hself, hsame]
  rfl

theorem callSite_of_no_localRule (h : ctx.localRule? s call = none) :
    ∃ kind targetModule targetSymbol isBuiltin receiver,
      (kind = .importQualified ∨ kind = .unresolved) ∧
        ctx.callSite s call =
          { ctx.bareSite s call with kind, targetModule, targetSymbol, isBuiltin, receiver } := by
  unfold callSite bareSite
  cases hfunction : call.child? "function" with
  | none => exact ⟨.unresolved, none, none, false, none, Or.inr rfl, rfl⟩
  | some f =>
      dsimp only
      rw [resolve?_of_no_localRule h hfunction]
      cases himported : ctx.resolveImported? (ctx.index.scopeChain s.scope) s.aliases f with
      | none => exact ⟨.unresolved, none, none, _, none, Or.inr rfl, rfl⟩
      | some r =>
          have hkind : r.kind = .importQualified := by
            rcases resolveImported?_eq_some himported with ⟨_, _, _, _, rfl⟩ | ⟨_, _, _, _, rfl⟩ <;> rfl
          exact ⟨r.kind, _, _, false, _, Or.inl hkind, rfl⟩

theorem localRule?_eq_some_iff {r : Resolution} :
    ctx.localRule? s call = some r ↔
      ∃ f, call.child? "function" = some f ∧
        (ctx.resolveSelf? (ctx.index.scopeChain s.scope) f = some r ∨
          ctx.resolveSelf? (ctx.index.scopeChain s.scope) f = none ∧
            ctx.resolveSameFile? (ctx.index.scopeChain s.scope) f = some r) := by
  simp only [localRule?, Option.bind_eq_some_iff, Option.orElse_eq_orElse, Option.orElse_eq_or,
    Option.or_eq_some_iff]

/-- Only the first two rules resolve a call to a definition of the file. -/
theorem kind_iff_localRule {kind : CallKind} (hkind : kind = .selfMethod ∨ kind = .sameFile) :
    (ctx.callSite s call).kind = kind ↔ ∃ r, ctx.localRule? s call = some r ∧ r.kind = kind := by
  cases hrule : ctx.localRule? s call with
  | some r => simp [callSite_of_localRule hrule]
  | none =>
      obtain ⟨k, _, _, _, _, hforeign, hsite⟩ := callSite_of_no_localRule hrule
      have hne : k ≠ kind := by
        rcases hforeign with rfl | rfl <;> rcases hkind with rfl | rfl <;> simp
      simp [hsite, hne]

/-! ## Other imports -/

variable (ctx) (imports : ImportMap) (locals : Dictionary String ImportMap)

/-- The context with other imports of the module and of its functions. -/
def withImports : CallContext :=
  { ctx with imports, localImports := locals }

theorem scopeNode?_withImports (n : Node) (above : List Node) :
    (ctx.withImports imports locals).scopeNode? n above = ctx.scopeNode? n above := by
  induction above generalizing n with
  | nil => rfl
  | cons parent above ih =>
      rw [scopeNode?, scopeNode?, ih]
      rfl

theorem scope_withImports (n : Node) (above : List Node) :
    ((ctx.withImports imports locals).surroundingsAt n above).scope =
      (ctx.surroundingsAt n above).scope := by
  rw [scope_surroundingsAt, scope_surroundingsAt, scopeNode?_withImports]
  rfl

/-- Nothing but the names bound around a call depends on what is imported. -/
theorem bareSite_withImports (n : Node) (above : List Node) :
    (ctx.withImports imports locals).bareSite
        ((ctx.withImports imports locals).surroundingsAt n above) n =
      ctx.bareSite (ctx.surroundingsAt n above) n := by
  unfold bareSite
  rw [scope_withImports, above_surroundingsAt, above_surroundingsAt]
  rfl

theorem localRule?_withImports (n : Node) (above : List Node) :
    (ctx.withImports imports locals).localRule?
        ((ctx.withImports imports locals).surroundingsAt n above) n =
      ctx.localRule? (ctx.surroundingsAt n above) n := by
  unfold localRule?
  rw [scope_withImports]
  rfl

variable (imports' : ImportMap) (locals' : Dictionary String ImportMap)

theorem siteAt_agrees (place : Node × List Node) :
    ((ctx.withImports imports locals).siteAt place).1.AgreesOnFile
      ((ctx.withImports imports' locals').siteAt place).1 := by
  obtain ⟨n, above⟩ := place
  dsimp only [siteAt]
  have hbare := ctx.bareSite_withImports imports locals n above
  have hbare' := ctx.bareSite_withImports imports' locals' n above
  have hrule := ctx.localRule?_withImports imports locals n above
  have hrule' := ctx.localRule?_withImports imports' locals' n above
  cases h : ctx.localRule? (ctx.surroundingsAt n above) n with
  | some r =>
      rw [h] at hrule hrule'
      have hsite := callSite_of_localRule hrule
      have hsite' := callSite_of_localRule hrule'
      rw [hbare] at hsite
      rw [hbare', ← hsite] at hsite'
      have hlocal := localRule?_eq_some h
      rw [hsite']
      exact ⟨rfl, rfl, rfl, rfl, rfl, fun _ => rfl,
        fun hnot => absurd (by rw [hsite]; exact hlocal) hnot⟩
  | none =>
      rw [h] at hrule hrule'
      obtain ⟨_, _, _, _, _, hkind, hsite⟩ := callSite_of_no_localRule hrule
      obtain ⟨_, _, _, _, _, hkind', hsite'⟩ := callSite_of_no_localRule hrule'
      rw [hbare] at hsite
      rw [hbare'] at hsite'
      have hforeign : ((ctx.withImports imports locals).callSite
          ((ctx.withImports imports locals).surroundingsAt n above) n).IsForeign := by
        rw [hsite]
        exact hkind
      have hforeign' : ((ctx.withImports imports' locals').callSite
          ((ctx.withImports imports' locals').surroundingsAt n above) n).IsForeign := by
        rw [hsite']
        exact hkind'
      refine ⟨?_, ?_, ?_, ?_, ?_, ?_, fun _ => ⟨hforeign, hforeign'⟩⟩
      · rw [hsite, hsite']
      · rw [hsite, hsite']
      · rw [hsite, hsite']
      · rw [hsite, hsite']
      · rw [hsite, hsite']
      · rintro (hlocal | hlocal)
        · exact absurd hlocal ((CallSite.isForeign_iff_not_isLocal _).mp hforeign)
        · exact absurd hlocal ((CallSite.isForeign_iff_not_isLocal _).mp hforeign')

theorem calls_agree (root : Node) :
    List.Forall₂ (fun c c' => c'.2 = c.2 ∧ c.1.AgreesOnFile c'.1)
      ((ctx.withImports imports locals).calls root)
      ((ctx.withImports imports' locals').calls root) := by
  rw [calls_eq, calls_eq, List.forall₂_map_left_iff,
    List.forall₂_map_right_iff, List.forall₂_same]
  intro place _
  exact ⟨rfl, ctx.siteAt_agrees imports locals imports' locals' place⟩

end CallContext

/-- Imports cannot disturb the first two rules. With the same symbols and any two states of the imports,
of the module and of its functions, the calls that are found in a tree are the same nodes in the same order.
They agree one by one on caller, callee, place and whether they are awaited; a call that is resolved to a
definition of the file with one state is the same call with the other, and every other call is resolved to
something imported, or to nothing, with both. Where the ways outward end, the calls are found with both. -/
theorem imports_cannot_disturb (ctx : CallContext) (imports imports' : ImportMap)
    (locals locals' : Dictionary String ImportMap) (root : Node) :
    (∀ turns turns' found found',
      (ctx.withImports imports locals).extractWithin turns root = some found →
      (ctx.withImports imports' locals').extractWithin turns' root = some found' →
        List.Forall₂ (fun c c' => c'.2 = c.2 ∧ c.1.AgreesOnFile c'.1) found found') ∧
    (ctx.ScopesEnd → ∀ turns ≥ ctx.turnsFor root,
      (ctx.withImports imports locals).extractWithin turns root =
          some ((ctx.withImports imports locals).calls root) ∧
        (ctx.withImports imports' locals').extractWithin turns root =
          some ((ctx.withImports imports' locals').calls root)) := by
  have hruns := fun imports locals turns =>
    (ctx.withImports imports locals).settles_extractWithin turns root
  constructor
  · intro turns turns' found found' hfound hfound'
    rw [(hruns imports locals turns).sound found hfound,
      (hruns imports' locals' turns').sound found' hfound']
    exact ctx.calls_agree imports locals imports' locals' root
  · intro hends turns hturns
    exact ⟨(hruns imports locals turns).ended ⟨hends, hturns⟩,
      (hruns imports' locals' turns).ended ⟨hends, hturns⟩⟩

/-- The tree of `def f(): h(f())`. -/
def recursiveFunction : Node :=
  .node { kind := "module", start := 0, stop := 15 }
    [.node { kind := "function_definition", start := 0, stop := 15 }
      [.node { kind := "identifier", start := 4, stop := 5, field := some "name" } [],
       .node { kind := "parameters", start := 5, stop := 7, field := some "parameters" } [],
       .node { kind := "block", start := 9, stop := 15, field := some "body" }
        [.node { kind := "call", start := 9, stop := 15 }
          [.node { kind := "identifier", start := 9, stop := 10, field := some "function" } [],
           .node { kind := "argument_list", start := 10, stop := 15, field := some "arguments" }
            [.node { kind := "call", start := 11, stop := 14 }
              [.node { kind := "identifier", start := 11, stop := 12, field := some "function" } []]]]]]]

/-- The context of `def f(): h(f())` in a file. -/
def recursiveContext : CallContext :=
  fileContext Faults.none "a.py" ⟨"def f(): h(f())".toUTF8.toList⟩ recursiveFunction

/-- Both names that are called are imported. -/
def bothImported : ImportMap where
  entries := [{ localName := "f", originModule := "m" }, { localName := "h", originModule := "m" }]

theorem imports_cannot_disturb_recursive :
    recursiveContext.ScopesEnd ∧ recursiveContext.turnsFor recursiveFunction ≤ 10 ∧
      ∃ found found', (recursiveContext.withImports {} {}).extractWithin 10 recursiveFunction = some found ∧
        (recursiveContext.withImports bothImported {}).extractWithin 10 recursiveFunction = some found' ∧
        found.map (·.1.kind) = [.unresolved, .sameFile] ∧
        found'.map (·.1.kind) = [.importQualified, .sameFile] ∧
        List.Forall₂ (fun c c' => c'.2 = c.2 ∧ c.1.AgreesOnFile c'.1) found found' := by
  have hends : recursiveContext.ScopesEnd := scopesEnd_fileContext _ _ _ _
  have hturns : recursiveContext.turnsFor recursiveFunction ≤ 10 := by decide +kernel
  have hagree := imports_cannot_disturb recursiveContext {} bothImported {} {} recursiveFunction
  obtain ⟨hfound, hfound'⟩ := hagree.2 hends 10 hturns
  exact ⟨hends, hturns, _, _, hfound, hfound', by decide +kernel, by decide +kernel,
    hagree.1 10 10 _ _ hfound hfound'⟩

/-! ## A method that is its own parent -/

/-- A method without an object that is its own parent. -/
def ownParentMethod : Symbol where
  name := "f"
  qualifiedName := "f"
  kind := .method
  line := some 1
  endLine := some 1
  parent := some "f"

/-- What is called in `def f(): a.g()`. -/
def calledMember : Node :=
  .node { kind := "attribute", start := 9, stop := 12, field := some "function" }
    [.node { kind := "identifier", start := 9, stop := 10, field := some "object" } [],
     .node { kind := "identifier", start := 11, stop := 12, field := some "attribute" } []]

/-- The tree of `def f(): a.g()`. -/
def memberCallInMethod : Node :=
  .node { kind := "module", start := 0, stop := 14 }
    [.node { kind := "function_definition", start := 0, stop := 14 }
      [.node { kind := "block", start := 9, stop := 14, field := some "body" }
        [.node { kind := "call", start := 9, stop := 14 } [calledMember]]]]

/-- The method that is its own parent is the symbol of `def f(): a.g()`. -/
def ownParentMethodContext : CallContext where
  src := ⟨"def f(): a.g()".toUTF8.toList⟩
  symbolAt := Dictionary.ofList [(0, ownParentMethod)]
  index := .ofSymbols [ownParentMethod]

/-- The method imports the name that is called upon. -/
def importedInMethod : Dictionary String ImportMap :=
  Dictionary.ofList [("f", { entries := [{ localName := "a", originModule := "a" }] })]

/-- The import is found if the method has it; else the search for it goes on for ever. -/
theorem own_parent_needs_import :
    (∃ turns, ((ownParentMethodContext.withImports {} importedInMethod).extractWithin turns
      memberCallInMethod).isSome) ∧
    ¬ ∃ turns, ((ownParentMethodContext.withImports {} {}).extractWithin turns
      memberCallInMethod).isSome := by
  refine ⟨⟨9, by decide +kernel⟩, ?_⟩
  have hname : dottedName? (ownParentMethodContext.withImports {} {}).src calledMember = some "a.g" := by
    decide +kernel
  have hresolve : ∀ turns, (ownParentMethodContext.withImports {} {}).resolveWithin turns
      (some ownParentMethod) [] calledMember = none := by
    intro turns
    have hloop : ∀ name, (ownParentMethodContext.withImports {} {}).importWithin turns
        (some ownParentMethod) name = none := fun name =>
      ScopeLoop.run_of_own_parent rfl (fun _ => ⟨(), rfl⟩) turns ()
    have himported : (ownParentMethodContext.withImports {} {}).importedWithin turns
        (some ownParentMethod) [] calledMember = none := by
      rw [CallContext.importedWithin, hname]
      dsimp only [List.lookup_nil]
      rw [hloop, Option.map_none]
    rw [CallContext.resolveWithin, himported]
    -- the first turn shows that the method has no object
    cases turns <;> rfl
  rintro ⟨turns, hsome⟩
  have hnone : (ownParentMethodContext.withImports {} {}).extractWithin turns memberCallInMethod = none :=
    CallContext.runWithin_of_next rfl rfl
      (CallContext.runWithin_of_next rfl rfl
        (CallContext.runWithin_of_next rfl rfl
          (CallContext.runWithin_of_note
            (CallContext.noteWithin_of_resolve rfl rfl (hresolve turns)) _ _))) turns
  rw [hnone] at hsome
  cases hsome

end SourceFacts
