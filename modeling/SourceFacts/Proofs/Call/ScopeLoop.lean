import Mathlib.Logic.Function.Iterate
import SourceFacts.Proofs.Call.Scope

/-!
# Loops over the scopes around a scope

The parent of a symbol is kept by name, and a name may be given more than once, so that the way outward
can pass from one definition to another of the same name. It ends all the same: a parent is always found,
and its name has fewer dots. A loop that follows the parents makes at most one turn for each dot and one
more.
-/

namespace SourceFacts

open Definitions

/-- The number of dots in a name. -/
def Text.dots (name : String) : Nat := name.toList.count '.'

namespace Definitions

variable {src : Source} {d : Node} {parent : Option Symbol} {s : Symbol}

theorem MadeFrom.dots_parent_lt (h : MadeFrom src d parent s) {p : String} (hp : s.parent = some p) :
    Text.dots p < Text.dots s.qualifiedName := by
  obtain ⟨name, hname⟩ := h.qualifiedName_eq
  rw [h.parent_eq] at hp
  obtain ⟨symbol, rfl, rfl⟩ := Option.map_eq_some_iff.mp hp
  have hdot : ".".toList = ['.'] := rfl
  rw [hname]
  simp only [qualify, Text.dots, String.toList_append, hdot, List.count_append, List.count_singleton_self]
  omega

theorem Lineage.exists_entry {root : Node} {entries : List (Nat × Symbol)} {outer : List Node}
    (h : Lineage src root entries outer (some s)) :
    ∃ e ∈ entries, e.2.qualifiedName = s.qualifiedName := by
  cases h with
  | inside _ _ _ hs _ hp => exact ⟨_, hs, by rw [hp]⟩

end Definitions

/-! ## The way outward -/

namespace SymbolIndex

/-- One step outward: the parent of the scope is looked up by its name. -/
def outer (index : SymbolIndex) (scope : Option Symbol) : Option Symbol :=
  scope.bind fun s => index.get? s.parent

/-- How many scopes there can be from a scope on: one for each dot of its name, and itself. -/
def scopeBound (scope : Option Symbol) : Nat :=
  scope.elim 0 fun s => Text.dots s.qualifiedName + 1

end SymbolIndex

section File

variable {faults : Faults} {file : String} {src : Source} {root : Node}

/-- The parent is found, under a name with fewer dots. -/
theorem exists_parent {s : Symbol} (hs : s ∈ fileSymbols faults file src root) {p : String}
    (hp : s.parent = some p) :
    ∃ t ∈ fileSymbols faults file src root,
      (fileContext faults file src root).index.get? (some p) = some t ∧ t.qualifiedName = p ∧
        Text.dots p < Text.dots s.qualifiedName := by
  obtain ⟨e, he, rfl⟩ := List.mem_map.mp hs
  obtain ⟨d, hd⟩ := exists_origin he
  obtain ⟨outer, parent, _, hlineage, hmade⟩ := hd.made
  have hdots := hmade.dots_parent_lt hp
  rw [hmade.parent_eq] at hp
  obtain ⟨q, rfl, rfl⟩ := Option.map_eq_some_iff.mp hp
  obtain ⟨e', he', hname⟩ := hlineage.exists_entry
  obtain ⟨t, ht⟩ := SymbolIndex.exists_get? (List.mem_map_of_mem (f := (·.2)) he')
  rw [hname] at ht
  obtain ⟨hmem, hq⟩ := SymbolIndex.mem_of_get? ht
  exact ⟨t, hmem, ht, (Option.some.inj hq).symm, hdots⟩

theorem scopeBound_parent_lt {s : Symbol} (hs : s ∈ fileSymbols faults file src root) :
    SymbolIndex.scopeBound ((fileContext faults file src root).index.get? s.parent) <
      SymbolIndex.scopeBound (some s) := by
  cases hparent : s.parent with
  | none => exact Nat.succ_pos _
  | some p =>
      obtain ⟨t, _, hget, rfl, hdots⟩ := exists_parent hs hparent
      rw [hget]
      exact Nat.succ_lt_succ hdots

/-- What holds outside of all symbols, and at a symbol if it holds at its parent as that is found, holds
at every scope. -/
theorem scope_induction {P : Option Symbol → Prop} (outside : P none)
    (inside : ∀ s ∈ fileSymbols faults file src root,
      P ((fileContext faults file src root).index.get? s.parent) → P (some s)) :
    ∀ scope, (∀ s, scope = some s → s ∈ fileSymbols faults file src root) → P scope := by
  intro scope hscope
  -- By the number of scopes that there can be. The parent may be any definition of its name, but it
  -- leaves fewer.
  induction hbound : SymbolIndex.scopeBound scope using Nat.strongRecOn generalizing scope with
  | ind n ih =>
      cases scope with
      | none => exact outside
      | some s =>
          have hs := hscope s rfl
          exact inside s hs (ih _ (hbound ▸ scopeBound_parent_lt hs) _
            (fun t ht => (SymbolIndex.mem_of_get? ht).1) rfl)

/-- Going outward step by step leads to a symbol of the module. -/
theorem exists_outermost {s : Symbol} (hs : s ∈ fileSymbols faults file src root) :
    ∃ steps ≤ Text.dots s.qualifiedName, ∃ top ∈ fileSymbols faults file src root,
      (fileContext faults file src root).index.outer^[steps] (some s) = some top ∧
        top.parent = none := by
  refine scope_induction (P := fun scope => ∀ s, scope = some s →
    s ∈ fileSymbols faults file src root → ∃ steps ≤ Text.dots s.qualifiedName,
      ∃ top ∈ fileSymbols faults file src root,
        (fileContext faults file src root).index.outer^[steps] (some s) = some top ∧
          top.parent = none) (by simp) ?_ (some s) (by rintro _ ⟨⟩; exact hs) s rfl hs
  -- A symbol of the module is reached at once, any other one a step after its parent.
  rintro s hs ih _ ⟨⟩ -
  cases hparent : s.parent with
  | none => exact ⟨0, Nat.zero_le _, s, hs, rfl, hparent⟩
  | some p =>
      obtain ⟨t, ht, hget, rfl, hdots⟩ := exists_parent hs hparent
      rw [hparent] at ih
      obtain ⟨steps, hsteps, top, htop, hreach, houtermost⟩ := ih t hget ht
      refine ⟨steps + 1, by omega, top, htop, ?_, houtermost⟩
      rw [Function.iterate_succ_apply, SymbolIndex.outer, Option.bind_some, hparent, hget]
      exact hreach

end File

/-! ## Loops -/

/-- What one turn of a loop comes to: an answer, or what has been gathered for the next turn. -/
inductive Turn (σ ρ : Type) where
  | answer (result : ρ)
  | next (gathered : σ)

/-- Answers with what was found; without it the loop goes on. -/
def Turn.ofFound {σ ρ : Type} (gathered : σ) : Option ρ → Turn σ (Option ρ)
  | some result => .answer (some result)
  | none => .next gathered

/-- A loop that looks at one scope after the other, each time at the parent of the last one. -/
structure ScopeLoop (σ ρ : Type) where
  turn : σ → Symbol → Turn σ ρ
  /-- The answer where no scope is left. -/
  outside : σ → ρ

namespace ScopeLoop

variable {σ ρ : Type}

/-- The answer of the loop from a scope on, if it comes after so many turns at most. -/
def run (loop : ScopeLoop σ ρ) (index : SymbolIndex) : (turns : Nat) → σ → Option Symbol → Option ρ
  | _, gathered, none => some (loop.outside gathered)
  | 0, _, some _ => none
  | turns + 1, gathered, some s =>
    match loop.turn gathered s with
    | .answer result => some result
    | .next gathered => run loop index turns gathered (index.get? s.parent)

/-- The answer of the loop over a list of scopes. -/
def along (loop : ScopeLoop σ ρ) : σ → List Symbol → ρ
  | gathered, [] => loop.outside gathered
  | gathered, s :: outer =>
    match loop.turn gathered s with
    | .answer result => result
    | .next gathered => along loop gathered outer

section Run

variable (loop : ScopeLoop σ ρ)

theorem run_none (index : SymbolIndex) (turns : Nat) (gathered : σ) :
    loop.run index turns gathered none = some (loop.outside gathered) := by
  cases turns <;> rfl

/-- One more turn looks at one more scope. -/
theorem run_succ {index : SymbolIndex} {turns : Nat} {s : Symbol} {outer : List Symbol}
    (h : ∀ gathered, loop.run index turns gathered (index.get? s.parent) =
      some (loop.along gathered outer)) (gathered : σ) :
    loop.run index (turns + 1) gathered (some s) = some (loop.along gathered (s :: outer)) := by
  rw [run, along]
  cases loop.turn gathered s with
  | answer result => rfl
  | next gathered => exact h gathered

variable {faults : Faults} {file : String} {src : Source} {root : Node}

/-- From every scope the loop comes to its answer, and has then looked at the chain of the scope. -/
theorem run_eq_along : ∀ scope, (∀ s, scope = some s → s ∈ fileSymbols faults file src root) →
    ∀ turns, SymbolIndex.scopeBound scope ≤ turns → ∀ gathered,
      loop.run (fileContext faults file src root).index turns gathered scope =
        some (loop.along gathered ((fileContext faults file src root).index.scopeChain scope)) := by
  refine scope_induction ?_ ?_
  · intro turns _ gathered
    rw [run_none, SymbolIndex.scopeChain_none, along]
  · intro s hs ih turns hturns
    have hlt := Nat.lt_of_lt_of_le (scopeBound_parent_lt hs) hturns
    obtain ⟨turns, rfl⟩ := Nat.exists_eq_succ_of_ne_zero (Nat.ne_zero_of_lt hlt)
    rw [scopeChain_fileContext hs]
    exact loop.run_succ (ih turns (Nat.le_of_lt_succ hlt))

end Run

/-- A loop that looks for the same in every scope finds it in the innermost one that has it. -/
theorem along_eq_findSome? {loop : ScopeLoop σ (Option ρ)} {gathered : σ} {find : Symbol → Option ρ}
    (h : ∀ s, loop.turn gathered s = .ofFound gathered (find s)) (chain : List Symbol) :
    loop.along gathered chain = (chain.findSome? find).or (loop.outside gathered) := by
  induction chain with
  | nil => rfl
  | cons s outer ih =>
      rw [along, h, List.findSome?_cons]
      cases find s with
      | none => exact ih
      | some result => rfl

/-! ## The loops of a resolution -/

/-- Looks for the method whose object a receiver is. -/
def enclosing (receiver : Option String) : ScopeLoop (List String) (Option Symbol) where
  turn shadowed s :=
    match s.kind with
    | .cls => .answer none
    | .method =>
      .answer (if s.instanceParam.any fun p => receiver.all fun r => decide (p = r ∧ r ∉ shadowed)
        then some s else none)
    | .function => .next (shadowed ++ s.parameters)
  outside _ := none

/-- Looks for a definition of a name. What is gathered is whether the scope is the first one: only there a
class is looked into. -/
def sameFile (ctx : CallContext) (name : String) : ScopeLoop Bool (Option Symbol) where
  turn isFirst s :=
    .ofFound false (if decide (s.kind ≠ .cls) || isFirst then ctx.visibleIn? name s else none)
  outside _ := ctx.index.child? none name

/-- Looks for an import that binds a name. -/
def imported (ctx : CallContext) (name : String) : ScopeLoop Unit (Option Import) where
  turn _ s := .ofFound () ((ctx.localImports.get? s.qualifiedName).bind (·.get? name))
  outside _ := ctx.imports.get? name

theorem along_enclosing (receiver : Option String) (shadowed : List String) (chain : List Symbol) :
    (enclosing receiver).along shadowed chain = enclosingMethod? receiver shadowed chain := by
  induction chain generalizing shadowed with
  | nil => rfl
  | cons s outer ih =>
      unfold along enclosingMethod?
      simp only [enclosing]
      cases s.kind with
      | cls => rfl
      | method => cases s.instanceParam <;> cases receiver <;> simp
      | function => exact ih _

theorem along_sameFile (ctx : CallContext) (name : String) (chain : List Symbol) :
    (sameFile ctx name).along true chain = ctx.visible? name chain := by
  -- Behind the first scope the loop passes over the classes.
  have houter : ∀ outer : List Symbol, (sameFile ctx name).along false outer =
      ((outer.filter fun s => decide (s.kind ≠ .cls)).findSome? (ctx.visibleIn? name)).or
        (ctx.index.child? none name) := by
    intro outer
    rw [along_eq_findSome? fun s => rfl]
    refine congrArg (Option.or · _) ?_
    induction outer with
    | nil => rfl
    | cons s outer ih =>
        rw [List.findSome?_cons, ih]
        by_cases hkind : s.kind = .cls <;> simp [hkind, List.findSome?_cons]
  unfold CallContext.visible?
  rw [Option.orElse_eq_orElse, Option.orElse_eq_or]
  cases chain with
  | nil => rfl
  | cons s outer =>
      rw [along]
      cases hfound : ctx.visibleIn? name s with
      | some t => simp [sameFile, Turn.ofFound, hfound]
      | none => simpa [sameFile, Turn.ofFound, hfound] using houter outer

theorem along_imported (ctx : CallContext) (name : String) (chain : List Symbol) :
    (imported ctx name).along () chain = ctx.importOf? chain name := by
  rw [along_eq_findSome? fun s => rfl]
  exact (Option.orElse_eq_or ..).symm

end ScopeLoop

/-! ## Every way outward ends -/

/-- From every symbol of a file its parent is found, and after at most as many steps outward as the
qualified name has dots a symbol of the module is reached. The scopes of a tree are symbols of the file,
and so each loop of a resolution, from whatever scope it starts, ends with an answer after at most one turn
more; the answer is the one that is read off the chain of the scope. -/
theorem scope_chains_end (faults : Faults) (file : String) (src : Source) (root : Node) :
    let symbols := fileSymbols faults file src root
    let ctx := fileContext faults file src root
    (∀ s ∈ symbols, ∀ p, s.parent = some p →
      ∃ t ∈ symbols, ctx.index.get? (some p) = some t ∧ t.qualifiedName = p) ∧
    (∀ s ∈ symbols, ∃ steps ≤ Text.dots s.qualifiedName, ∃ top ∈ symbols,
      ctx.index.outer^[steps] (some s) = some top ∧ top.parent = none) ∧
    (∀ n above scope aliases, ctx.Surrounded n above scope aliases →
      ∀ s, scope = some s → s ∈ symbols) ∧
    ∀ scope, (∀ s, scope = some s → s ∈ symbols) →
      ∀ turns, SymbolIndex.scopeBound scope ≤ turns →
        (∀ receiver, (ScopeLoop.enclosing receiver).run ctx.index turns [] scope =
          some (enclosingMethod? receiver [] (ctx.index.scopeChain scope))) ∧
        (∀ name, (ScopeLoop.sameFile ctx name).run ctx.index turns true scope =
          some (ctx.visible? name (ctx.index.scopeChain scope))) ∧
        ∀ name, (ScopeLoop.imported ctx name).run ctx.index turns () scope =
          some (ctx.importOf? (ctx.index.scopeChain scope) name) := by
  intro symbols ctx
  refine ⟨fun s hs p hp => ?_, fun s => exists_outermost, ?_, fun scope hscope turns hturns => ?_⟩
  · obtain ⟨t, ht, hget, hname, _⟩ := exists_parent hs hp
    exact ⟨t, ht, hget, hname⟩
  · rintro n above _ aliases h s rfl
    exact mem_fileSymbols_of_surrounded h
  · refine ⟨fun receiver => ?_, fun name => ?_, fun name => ?_⟩
    · rw [ScopeLoop.run_eq_along _ scope hscope turns hturns, ScopeLoop.along_enclosing]
    · rw [ScopeLoop.run_eq_along _ scope hscope turns hturns, ScopeLoop.along_sameFile]
    · rw [ScopeLoop.run_eq_along _ scope hscope turns hturns, ScopeLoop.along_imported]

/-- A function in a method of a class, and a function of the module that has the qualified name of the
method as its name. -/
def dottedFunction : Node :=
  .node { kind := "module", start := 0, stop := 41 }
    [.node { kind := "class_definition", start := 0, stop := 28 }
      [.node { kind := "identifier", start := 6, stop := 7, field := some "name" } [],
       .node { kind := "block", start := 9, stop := 28, field := some "body" }
        [.node { kind := "function_definition", start := 9, stop := 28 }
          [.node { kind := "identifier", start := 13, stop := 14, field := some "name" } [],
           .node { kind := "block", start := 18, stop := 28, field := some "body" }
            [.node { kind := "function_definition", start := 18, stop := 28 }
              [.node { kind := "identifier", start := 22, stop := 23, field := some "name" } []]]]]],
     .node { kind := "function_definition", start := 29, stop := 41 }
      [.node { kind := "identifier", start := 33, stop := 36, field := some "name" } []]]

theorem scope_chains_end_dotted :
    let src := plainSource "class a: def b(): def c(): 0\ndef a.b(): 0"
    let symbols := fileSymbols Faults.none "m.py" src dottedFunction
    let ctx := fileContext Faults.none "m.py" src dottedFunction
    symbols.map (fun s => (s.qualifiedName, s.parent)) =
        [("a", none), ("a.b", some "a"), ("a.b.c", some "a.b"), ("a.b", none)] ∧
      ∃ s ∈ symbols, s.qualifiedName = "a.b.c" ∧
        (∃ t ∈ symbols, ctx.index.get? (some "a.b") = some t ∧ t.qualifiedName = "a.b") ∧
        (∃ steps ≤ 2, ∃ top ∈ symbols,
          ctx.index.outer^[steps] (some s) = some top ∧ top.parent = none) ∧
        (ScopeLoop.sameFile ctx "a").run ctx.index 3 true (some s) =
          some (ctx.visible? "a" (ctx.index.scopeChain (some s))) := by
  intro src symbols ctx
  have hsymbols : symbols.map (fun s => (s.qualifiedName, s.parent)) =
      [("a", none), ("a.b", some "a"), ("a.b.c", some "a.b"), ("a.b", none)] := by decide +kernel
  obtain ⟨s, hs, hname⟩ : ∃ s ∈ symbols, (s.qualifiedName, s.parent) = ("a.b.c", some "a.b") :=
    List.mem_map.mp (hsymbols ▸ by decide)
  obtain ⟨hname, hparent⟩ := Prod.mk.inj hname
  obtain ⟨hfound, houtermost, -, hloops⟩ := scope_chains_end Faults.none "m.py" src dottedFunction
  have hdots : Text.dots s.qualifiedName = 2 := by rw [hname]; decide
  have hbound : SymbolIndex.scopeBound (some s) ≤ 3 := Nat.le_of_eq (congrArg (· + 1) hdots)
  have hscope : ∀ t, some s = some t → t ∈ symbols := by
    rintro t ⟨⟩
    exact hs
  exact ⟨hsymbols, s, hs, hname, hfound s hs _ hparent, hdots ▸ houtermost s hs,
    (hloops (some s) hscope 3 hbound).2.1 "a"⟩

end SourceFacts
