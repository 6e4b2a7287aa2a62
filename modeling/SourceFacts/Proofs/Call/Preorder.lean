import SourceFacts.Proofs.Call.LoopedWalk
import SourceFacts.Proofs.Call.Surroundings
import SourceFacts.Proofs.File.Parts
import SourceFacts.Proofs.Order

/-!
# Every call once, in pre-order

Whatever the tables are, the loops that look for the calls find one for each call node, in pre-order, if
they end. They do where the ways outward end, as they do in every file. On a table in which a symbol is its
own parent they need not.
-/

namespace SourceFacts

/-! ## The calls of a tree -/

/-- The calls are one for each call node of the tree, in pre-order, with the text, the line and the column
of that node. -/
structure CallContext.MeetsEach (ctx : CallContext) (root : Node) (found : List (CallSite × Node)) :
    Prop where
  nodes : found.map (·.2) = root.preorder.filter fun n => n.kind == "call"
  texts : found.map (fun c => (c.1.callee, c.1.line, c.1.column)) =
    (root.preorder.filter fun n => n.kind == "call").map fun n =>
      (ctx.src.textOf (n.child? "function"), some (ctx.src.line n : Int),
        some (ctx.src.column n : Int))

namespace CallContext

theorem meetsEach_calls (ctx : CallContext) (root : Node) : ctx.MeetsEach root (ctx.calls root) where
  nodes := ctx.map_snd_calls root
  texts := by
    rw [← map_snd_calls ctx, List.map_map, calls_eq, List.map_map, List.map_map]
    refine List.map_congr_left fun place _ => ?_
    simp [siteAt, callSite_callee, callSite_line, callSite_column]

end CallContext

/-! ## The calls of a file -/

/-- Where a call stands: its line, then its column. -/
def CallSite.place (c : CallSite) : ℤ ×ₗ ℤ :=
  toLex (c.line.rank, c.column.rank)

/-- The calls are those found, ordered by place; calls at one place keep their order. -/
structure StablyPlaced (calls found : List CallSite) : Prop where
  perm : calls.Perm found
  ordered : calls.Pairwise fun a b => a.place ≤ b.place
  stable : ∀ p, calls.filter (fun c => decide (c.place = p)) =
    found.filter fun c => decide (c.place = p)

theorem stablyPlaced_sortBy (found : List CallSite) :
    StablyPlaced (sortBy (thenBy (compareOn (·.line.rank)) (compareOn (·.column.rank))) found)
      found where
  perm := sortBy_perm _ found
  ordered := (sortBy_pairwise _ found).imp fun {a b} h => (notAfter_thenBy_iff _ _ a b).mp h
  stable := by
    intro p
    refine filter_sortBy _ _ found fun a b ha hb => (notAfter_thenBy_iff _ _ a b).mpr ?_
    have hab : a.place = b.place := (of_decide_eq_true ha).trans (of_decide_eq_true hb).symm
    exact le_of_eq hab

/-- No call is lost, met twice or moved. Whatever the symbols and the imports are, the loops that look for
the calls find, if they end, one call for each call node, in pre-order, with the text, the line and the
column of that node; and where the ways outward end, they do. They end in every file, and its facts have the
calls found ordered by line and column, calls at one place in the order in which they were found. -/
theorem calls_preorder_stable :
    (∀ (ctx : CallContext) (root : Node) (turns : Nat) (found : List (CallSite × Node)),
      ctx.extractWithin turns root = some found →
        found = ctx.calls root ∧ ctx.MeetsEach root found) ∧
    (∀ (ctx : CallContext) (root : Node), ctx.ScopesEnd → ∀ turns ≥ ctx.turnsFor root,
      ctx.extractWithin turns root = some (ctx.calls root)) ∧
    (∀ (config : Config) (misfits : Misfits) (faults : Faults) (file module : String)
      (src : Source) (root : Node), root.kind = "module" → moduleName file = .ok module →
      faults .calls = none →
      ∃ f found, analyzeFile config faults file src (some root) misfits = .ok (.facts f) ∧
        (∀ turns ≥ (fileContext faults file src root).turnsFor root,
          (fileContext faults file src root).extractWithin turns root = some found) ∧
        (fileContext faults file src root).MeetsEach root found ∧
        StablyPlaced f.calls (found.map (·.1))) := by
  have hends : ∀ (ctx : CallContext) (root : Node), ctx.ScopesEnd → ∀ turns ≥ ctx.turnsFor root,
      ctx.extractWithin turns root = some (ctx.calls root) := fun ctx root hctx turns hturns =>
    (ctx.settles_extractWithin turns root).ended ⟨hctx, hturns⟩
  refine ⟨fun ctx root turns found hfound => ?_, hends, ?_⟩
  · obtain rfl := (ctx.settles_extractWithin turns root).sound found hfound
    exact ⟨rfl, ctx.meetsEach_calls root⟩
  · intro config misfits faults file module src root hkind hname hcalls
    have hfound : fileCalls faults file src root = (fileContext faults file src root).calls root :=
      Faults.run_of_none hcalls _ _
    refine ⟨_, _, analyzeFile_module config misfits faults file module src root hkind hname,
      hends _ root (scopesEnd_fileContext faults file src root),
      CallContext.meetsEach_calls _ root, ?_⟩
    rw [moduleFacts_calls, hfound]
    exact stablyPlaced_sortBy _

/-- The tree of `f(g())`. -/
def nestedCalls : Node :=
  .node { kind := "module", start := 0, stop := 6 }
    [.node { kind := "call", start := 0, stop := 6 }
      [.node { kind := "identifier", start := 0, stop := 1, field := some "function" } [],
       .node { kind := "argument_list", start := 1, stop := 6, field := some "arguments" }
        [.node { kind := "call", start := 2, stop := 5 }
          [.node { kind := "identifier", start := 2, stop := 3, field := some "function" } []]]]]

/-- The context of `f(g())` in a file. -/
def nestedContext : CallContext :=
  fileContext Faults.none "a.py" ⟨"f(g())".toUTF8.toList⟩ nestedCalls

theorem calls_preorder_stable_nested :
    moduleName "a.py" = .ok "a" ∧ nestedContext.turnsFor nestedCalls ≤ 9 ∧
      ∃ (f : FileFacts) (found : List (CallSite × Node)),
        analyzeFile {} Faults.none "a.py" ⟨"f(g())".toUTF8.toList⟩ (some nestedCalls) = .ok (.facts f) ∧
        nestedContext.extractWithin 9 nestedCalls = some found ∧ found.map (·.2.start) = [0, 2] ∧
        nestedContext.MeetsEach nestedCalls found ∧ StablyPlaced f.calls (found.map (·.1)) := by
  have hturns : nestedContext.turnsFor nestedCalls ≤ 9 := by decide +kernel
  obtain ⟨f, found, hf, hruns, hmeets, hplaced⟩ :=
    calls_preorder_stable.2.2 {} {} Faults.none "a.py" "a" ⟨"f(g())".toUTF8.toList⟩ nestedCalls rfl rfl rfl
  have hfound := (calls_preorder_stable.1 nestedContext nestedCalls 9 found (hruns 9 hturns)).1
  have hstarts : (nestedContext.calls nestedCalls).map (·.2.start) = [0, 2] := rfl
  rw [← hfound] at hstarts
  exact ⟨rfl, hturns, f, found, hf, hruns 9 hturns, hstarts, hmeets, hplaced⟩

/-! ## A symbol that is its own parent -/

/-- A function that is its own parent. -/
def ownParent : Symbol where
  name := "f"
  qualifiedName := "f"
  kind := .function
  line := some 1
  endLine := some 1
  parent := some "f"

/-- The name that is called in `def f(): g()`. -/
def calledName : Node :=
  .node { kind := "identifier", start := 9, stop := 10, field := some "function" } []

/-- The tree of `def f(): g()`. -/
def callInFunction : Node :=
  .node { kind := "module", start := 0, stop := 12 }
    [.node { kind := "function_definition", start := 0, stop := 12 }
      [.node { kind := "block", start := 9, stop := 12, field := some "body" }
        [.node { kind := "call", start := 9, stop := 12 } [calledName]]]]

/-- The function that is its own parent is the symbol of `def f(): g()`. -/
def ownParentContext : CallContext where
  src := ⟨"def f(): g()".toUTF8.toList⟩
  symbolAt := Dictionary.ofList [(0, ownParent)]
  index := .ofSymbols [ownParent]

/-- The search for the name that is called goes on for ever. -/
theorem own_parent_never_ends :
    ¬ ∃ turns, (ownParentContext.extractWithin turns callInFunction).isSome := by
  have hname : ownParentContext.src.text calledName = "g" := by decide +kernel
  have hresolve : ∀ turns, ownParentContext.resolveWithin turns (some ownParent) [] calledName = none := by
    intro turns
    have hloop : (ScopeLoop.sameFile ownParentContext "g").run ownParentContext.index turns true
        (some ownParent) = none :=
      ScopeLoop.run_of_own_parent rfl (fun gathered => ⟨false, by cases gathered <;> rfl⟩) turns true
    have hsame : ownParentContext.sameFileWithin turns (some ownParent) calledName = none := by
      rw [CallContext.sameFileWithin, hname, hloop]
      rfl
    rw [CallContext.resolveWithin, hsame]
    rfl
  rintro ⟨turns, hsome⟩
  have hnone : ownParentContext.extractWithin turns callInFunction = none :=
    CallContext.runWithin_of_next rfl rfl
      (CallContext.runWithin_of_next rfl rfl
        (CallContext.runWithin_of_next rfl rfl
          (CallContext.runWithin_of_note
            (CallContext.noteWithin_of_resolve rfl rfl (hresolve turns)) _ _))) turns
  rw [hnone] at hsome
  cases hsome

end SourceFacts
