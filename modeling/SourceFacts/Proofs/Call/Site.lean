import SourceFacts.Call.Extraction

/-!
# What a call site holds

A call site is made from the place of its node, its scope and, where a rule applies, from what that
rule finds.
-/

namespace SourceFacts.CallContext

variable (ctx : CallContext)

/-- The call site of a call expression before any rule is tried. -/
def bareSite (s : Surroundings) (call : Node) : CallSite where
  caller := (s.scope.map (·.qualifiedName)).getD moduleScope
  callee := ctx.src.textOf (call.child? "function")
  kind := .unresolved
  line := some (ctx.src.line call)
  column := some (ctx.src.column call)
  isAwaited := isAsyncUse s.above

/-- Either a rule resolves the call, or nothing is known but whether it is built in. -/
theorem callSite_cases (s : Surroundings) (call : Node) :
    (∃ f r, ctx.resolve? (ctx.index.scopeChain s.scope) s.aliases f = some r ∧
      ctx.callSite s call =
        { ctx.bareSite s call with
          kind := r.kind
          targetModule := r.targetModule
          targetSymbol := r.targetSymbol
          receiver := r.receiver }) ∨
    ∃ isBuiltin, ctx.callSite s call = { ctx.bareSite s call with isBuiltin } := by
  unfold callSite bareSite
  cases call.child? "function" with
  | none => exact Or.inr ⟨false, rfl⟩
  | some f =>
      dsimp only
      cases hr : ctx.resolve? (ctx.index.scopeChain s.scope) s.aliases f with
      | none => exact Or.inr ⟨_, rfl⟩
      | some r => exact Or.inl ⟨f, r, hr, rfl⟩

theorem callSite_callee (s : Surroundings) (call : Node) :
    (ctx.callSite s call).callee = ctx.src.textOf (call.child? "function") := by
  rcases ctx.callSite_cases s call with ⟨_, _, _, h⟩ | ⟨_, h⟩ <;> rw [h] <;> rfl

theorem callSite_line (s : Surroundings) (call : Node) :
    (ctx.callSite s call).line = some (ctx.src.line call : Int) := by
  rcases ctx.callSite_cases s call with ⟨_, _, _, h⟩ | ⟨_, h⟩ <;> rw [h] <;> rfl

theorem callSite_column (s : Surroundings) (call : Node) :
    (ctx.callSite s call).column = some (ctx.src.column call : Int) := by
  rcases ctx.callSite_cases s call with ⟨_, _, _, h⟩ | ⟨_, h⟩ <;> rw [h] <;> rfl

end SourceFacts.CallContext
