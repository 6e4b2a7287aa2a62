import Mathlib.Data.List.Forall2
import SourceFacts.Proofs.Call.Surroundings
import SourceFacts.Proofs.File.Parts
import SourceFacts.Proofs.Symbol.Index

/-!
# The scope of a call

A call is resolved in the scope and with the names that its ancestors give. Where definitions start
at distinct offsets, the scope is the symbol of the ancestor itself.
-/

namespace SourceFacts

open Definitions

namespace CallContext

variable (ctx : CallContext)

theorem forall₂_surrounded_calls (root : Node) :
    List.Forall₂
      (fun place c => ∃ scope aliases, ctx.Surrounded place.1 place.2 scope aliases ∧
        c = (ctx.callSite { scope, aliases, above := place.2 } place.1, place.1))
      ((root.visits []).filter fun place => place.1.kind == "call") (ctx.calls root) := by
  rw [calls_eq, List.forall₂_map_right_iff, List.forall₂_same]
  rintro ⟨n, above⟩ _
  refine ⟨_, _, ctx.surrounded_surroundingsAt n above, ?_⟩
  rw [← ctx.eta_surroundingsAt n above]
  rfl

theorem existsUnique_surrounded (n : Node) (above : List Node) :
    ∃! around : Option Symbol × Aliases, ctx.Surrounded n above around.1 around.2 := by
  refine ⟨((ctx.surroundingsAt n above).scope, (ctx.surroundingsAt n above).aliases),
    ctx.surrounded_surroundingsAt n above, ?_⟩
  rintro ⟨scope, aliases⟩ h
  obtain ⟨rfl, rfl⟩ := (ctx.surrounded_iff).mp h
  rfl

end CallContext

/-! ## The way outward from a scope -/

section File

variable {faults : Faults} {file : String} {src : Source} {root : Node}

theorem fileSymbols_nest : ∀ s ∈ fileSymbols faults file src root, SymbolIndex.Nests s := by
  intro s hs
  obtain ⟨e, he, rfl⟩ := List.mem_map.mp hs
  obtain ⟨d, hd⟩ := exists_origin he
  obtain ⟨outer, parent, _, _, hmade⟩ := hd.made
  exact fun p hp => hmade.parent_shorter hp

theorem scopeChain_fileContext {s : Symbol} (hs : s ∈ fileSymbols faults file src root) :
    (fileContext faults file src root).index.scopeChain (some s) =
      s :: (fileContext faults file src root).index.scopeChain
        ((fileContext faults file src root).index.get? s.parent) :=
  SymbolIndex.scopeChain_some fileSymbols_nest (fileSymbols_nest s hs)

theorem mem_fileSymbols_of_surrounded {n : Node} {above : List Node} {s : Symbol}
    {aliases : Aliases} (h : (fileContext faults file src root).Surrounded n above (some s) aliases) :
    s ∈ fileSymbols faults file src root := by
  have hscope := ((CallContext.surrounded_iff _).mp h).1
  rw [CallContext.scope_surroundingsAt] at hscope
  obtain ⟨d, _, hs⟩ := Option.bind_eq_some_iff.mp hscope.symm
  exact List.mem_map.mpr ⟨_, mem_of_symbolAt hs, rfl⟩

/-- The chain of the scope of a node is the whole way outward from it. -/
theorem outward_scopeChain {n : Node} {above : List Node} {scope : Option Symbol}
    {aliases : Aliases} (h : (fileContext faults file src root).Surrounded n above scope aliases) :
    (fileContext faults file src root).index.Outward scope
      ((fileContext faults file src root).index.scopeChain scope) := by
  refine (SymbolIndex.outward_iff fileSymbols_nest fun s hs => ?_).mpr rfl
  subst hs
  exact mem_fileSymbols_of_surrounded h

end File

/-! ## What the ancestors give -/

/-- The ancestors of a call alone give its scope and the names bound around it. Every call of a tree is
resolved with what going down its path gives, and that is unique; what is not the body of its parent is
surrounded as the parent is, so that a decorator, a default or a base belongs to the enclosing scope and
no name of a `with` statement is seen outside its block; what stands beside the path has no influence;
and where definitions start at distinct offsets, the symbol at an ancestor is made from that ancestor,
inside the definitions around it. -/
theorem scope_of_ancestors :
    (∀ (ctx : CallContext) (root : Node),
      List.Forall₂
        (fun place c => ∃ scope aliases, ctx.Surrounded place.1 place.2 scope aliases ∧
          c = (ctx.callSite { scope, aliases, above := place.2 } place.1, place.1))
        ((root.visits []).filter fun place => place.1.kind == "call") (ctx.calls root)) ∧
    (∀ (ctx : CallContext) (n : Node) (above : List Node),
      ∃! around : Option Symbol × Aliases, ctx.Surrounded n above around.1 around.2) ∧
    (∀ (ctx : CallContext) (parent n : Node) (above : List Node) (scope : Option Symbol)
      (aliases : Aliases), n.isBodyOf parent = false →
      (ctx.Surrounded n (parent :: above) scope aliases ↔
        ctx.Surrounded parent above scope aliases)) ∧
    (∀ (ctx : CallContext) (n n' : Node) (above above' : List Node) (scope : Option Symbol)
      (aliases : Aliases), ctx.SameCourse n above n' above' →
      (ctx.Surrounded n above scope aliases ↔ ctx.Surrounded n' above' scope aliases)) ∧
    (∀ (faults : Faults) (file : String) (src : Source) (root d : Node) (above : List Node)
      (s : Symbol), DistinctStarts root → root.At d above → isPlainDefinition d.kind = true →
      (fileContext faults file src root).symbolAt.get? d.start = some s →
      OriginatesFrom src root (fileDefinitions faults file src root).symbols d (d.start, s)) := by
  refine ⟨fun ctx => ctx.forall₂_surrounded_calls, fun ctx => ctx.existsUnique_surrounded,
    fun ctx parent n above scope aliases hb => ctx.surrounded_iff_of_not_body hb, ?_, ?_⟩
  · intro ctx n n' above above' scope aliases h
    obtain ⟨hscope, haliases⟩ := h.surroundingsAt_eq
    rw [ctx.surrounded_iff, ctx.surrounded_iff, hscope, haliases]
  · intro faults file src root d above s hdistinct hat hd hs
    exact originatesFrom_of_distinctStarts hdistinct hd hat (mem_of_symbolAt hs)

/-- The tree of a function `f` whose body calls `g`. -/
def callingFunction : Node :=
  .node { kind := "function_definition", start := 0, stop := 13 }
    [.node { kind := "identifier", start := 4, stop := 5, field := some "name" } [],
     .node { kind := "block", start := 9, stop := 12, field := some "body" }
      [.node { kind := "call", start := 9, stop := 12 }
        [.node { kind := "identifier", start := 9, stop := 10, field := some "function" } []]]]

theorem scope_of_ancestors_callingFunction :
    let src : Source := ⟨"def f(): g()".toUTF8.toList⟩
    let root : Node := .node { kind := "module", start := 0, stop := 13 } [callingFunction]
    DistinctStarts root ∧
      ((fileContext Faults.none "a.py" src root).calls root).map (·.1.caller) = ["f"] ∧
      ∃ s, (fileContext Faults.none "a.py" src root).symbolAt.get? callingFunction.start = some s ∧
        OriginatesFrom src root (fileDefinitions Faults.none "a.py" src root).symbols
          callingFunction (callingFunction.start, s) := by
  intro src root
  have hdistinct : DistinctStarts root := by decide
  have hat : root.At callingFunction [root] := .child .root List.mem_cons_self
  have hsome : ((fileContext Faults.none "a.py" src root).symbolAt.get?
      callingFunction.start).isSome = true := rfl
  obtain ⟨s, hs⟩ := Option.isSome_iff_exists.mp hsome
  exact ⟨hdistinct, by decide +kernel, s, hs,
    scope_of_ancestors.2.2.2.2 Faults.none "a.py" src root callingFunction [root] s hdistinct hat
      rfl hs⟩

end SourceFacts
