import SourceFacts.Call.Extraction
import SourceFacts.Proofs.Syntax.Path
import SourceFacts.Symbol.Table

/-!
# What surrounds a call

The scope of a node and the names bound around it are found by going down the path from the root.
The calls of a tree are its call nodes in pre-order, each resolved with what its own path gives.
-/

namespace SourceFacts

open Definitions (isPlainDefinition)

namespace CallContext

variable (ctx : CallContext)

/-! ## One step down -/

theorem kind_ne_with_of_isPlainDefinition {d : Node} (hd : isPlainDefinition d.kind = true) :
    ¬ d.kind = "with_statement" := by
  intro hw
  rw [hw] at hd
  revert hd
  decide

theorem enter_definitionBody {s : Surroundings} {d body : Node} {symbol : Symbol}
    (hd : isPlainDefinition d.kind = true) (hb : body.isBodyOf d = true)
    (hs : ctx.symbolAt.get? d.start = some symbol) :
    ctx.enter s d body = { scope := some symbol, aliases := s.aliases, above := d :: s.above } := by
  have hw := kind_ne_with_of_isPlainDefinition hd
  unfold isPlainDefinition at hd
  simp [enter, hd, hb, hs, hw]

theorem enter_withBody {s : Surroundings} {w body : Node} (hw : w.kind = "with_statement")
    (hb : body.isBodyOf w = true) :
    ctx.enter s w body =
      { scope := s.scope
        aliases := ctx.aliasesOf (ctx.index.scopeChain s.scope) w ++ s.aliases
        above := w :: s.above } := by
  simp [enter, hw, hb]

theorem enter_elsewhere {s : Surroundings} {parent n : Node}
    (hdef : isPlainDefinition parent.kind = true → n.isBodyOf parent = true →
      ctx.symbolAt.get? parent.start = none)
    (hwith : parent.kind = "with_statement" → n.isBodyOf parent = false) :
    ctx.enter s parent n = { s with above := parent :: s.above } := by
  unfold isPlainDefinition at hdef
  cases hb : n.isBodyOf parent with
  | false => simp [enter, hb]
  | true =>
      have hw : ¬ parent.kind = "with_statement" := fun hw => by simp [hwith hw] at hb
      cases hd : (parent.kind == "function_definition" || parent.kind == "class_definition") with
      | false => simp [enter, hb, hw, hd]
      | true => simp [enter, hb, hw, hd, hdef hd hb]

/-- A step goes into the body of a definition with a symbol, into that of a `with` statement, or
elsewhere. -/
theorem step_cases (parent n : Node) :
    (∃ symbol, isPlainDefinition parent.kind = true ∧ n.isBodyOf parent = true ∧
      ctx.symbolAt.get? parent.start = some symbol) ∨
    (parent.kind = "with_statement" ∧ n.isBodyOf parent = true) ∨
    ((isPlainDefinition parent.kind = true → n.isBodyOf parent = true →
        ctx.symbolAt.get? parent.start = none) ∧
      (parent.kind = "with_statement" → n.isBodyOf parent = false)) := by
  cases hb : n.isBodyOf parent with
  | false => exact Or.inr (Or.inr ⟨by simp, fun _ => rfl⟩)
  | true =>
      by_cases hw : parent.kind = "with_statement"
      · exact Or.inr (Or.inl ⟨hw, rfl⟩)
      · cases hs : ctx.symbolAt.get? parent.start with
        | none => exact Or.inr (Or.inr ⟨fun _ _ => rfl, fun h => absurd h hw⟩)
        | some symbol =>
            by_cases hd : isPlainDefinition parent.kind = true
            · exact Or.inl ⟨symbol, hd, rfl, rfl⟩
            · exact Or.inr (Or.inr ⟨fun h => absurd h hd, fun h => absurd h hw⟩)

/-! ## All steps of a path -/

/-- What holds at a node below the given ones, the nearest first. -/
def surroundingsAt : Node → List Node → Surroundings
  | _, [] => {}
  | n, parent :: above => ctx.enter (surroundingsAt parent above) parent n

@[simp]
theorem above_surroundingsAt (n : Node) (above : List Node) :
    (ctx.surroundingsAt n above).above = above := by
  induction above generalizing n with
  | nil => rfl
  | cons parent above ih => exact congrArg (parent :: ·) (ih parent)

theorem eta_surroundingsAt (n : Node) (above : List Node) :
    ctx.surroundingsAt n above =
      { scope := (ctx.surroundingsAt n above).scope
        aliases := (ctx.surroundingsAt n above).aliases
        above } := by
  have habove := ctx.above_surroundingsAt n above
  generalize ctx.surroundingsAt n above = s at habove
  subst habove
  rfl

def siteAt (place : Node × List Node) : CallSite × Node :=
  (ctx.callSite (ctx.surroundingsAt place.1 place.2) place.1, place.1)

mutual

theorem callsFrom_surroundingsAt (above : List Node) : (n : Node) →
    ctx.callsFrom (ctx.surroundingsAt n above) n =
      ((n.visits above).filter fun place => place.1.kind == "call").map ctx.siteAt
  | .node l cs => by
      rw [callsFrom, callsAmong_surroundingsAt (.node l cs) above cs, Node.visits]
      cases hk : l.kind == "call" with
      | true => simp [Node.kind, hk, siteAt]
      | false => simp [Node.kind, hk]

theorem callsAmong_surroundingsAt (parent : Node) (above : List Node) : (cs : List Node) →
    ctx.callsAmong (ctx.surroundingsAt parent above) parent cs =
      ((Node.visitsAll (parent :: above) cs).filter fun place => place.1.kind == "call").map
        ctx.siteAt
  | [] => by rw [callsAmong, Node.visitsAll, List.filter_nil, List.map_nil]
  | c :: cs => by
      have hc := callsFrom_surroundingsAt (parent :: above) c
      rw [surroundingsAt] at hc
      rw [callsAmong, hc, callsAmong_surroundingsAt parent above cs, Node.visitsAll,
        List.filter_append, List.map_append]

end

/-- The calls of a tree are its call nodes in pre-order, each with what its path gives. -/
theorem calls_eq (root : Node) :
    ctx.calls root =
      ((root.visits []).filter fun place => place.1.kind == "call").map ctx.siteAt :=
  ctx.callsFrom_surroundingsAt [] root

theorem map_snd_calls (root : Node) :
    (ctx.calls root).map (·.2) = root.preorder.filter fun n => n.kind == "call" := by
  rw [calls_eq, List.map_map, ← Node.map_fst_visits [] root, List.filter_map]
  rfl

theorem mem_calls_iff {root : Node} {c : CallSite × Node} :
    c ∈ ctx.calls root ↔
      ∃ n above, root.At n above ∧ n.kind = "call" ∧
        c = (ctx.callSite (ctx.surroundingsAt n above) n, n) := by
  rw [calls_eq, List.mem_map]
  constructor
  · rintro ⟨⟨n, above⟩, hplace, rfl⟩
    obtain ⟨hvisit, hcall⟩ := List.mem_filter.mp hplace
    exact ⟨n, above, Node.mem_visits_iff.mp hvisit, by simpa using hcall, rfl⟩
  · rintro ⟨n, above, hat, hcall, rfl⟩
    exact ⟨(n, above), List.mem_filter.mpr ⟨Node.mem_visits_iff.mpr hat, by simpa using hcall⟩, rfl⟩

/-! ## The path alone decides -/

/-- The scope of a node below the given ones, and the names bound around it, the latest first. Only
the step into the body of a definition with a symbol changes the scope, and only the step into the
body of a `with` statement binds names, which are read in the scope of the statement. -/
inductive Surrounded : Node → List Node → Option Symbol → Aliases → Prop where
  | root (n : Node) : Surrounded n [] none []
  | definitionBody {d body : Node} {above : List Node} {scope : Option Symbol} {aliases : Aliases}
      {symbol : Symbol} (h : Surrounded d above scope aliases)
      (hd : isPlainDefinition d.kind = true) (hb : body.isBodyOf d = true)
      (hs : ctx.symbolAt.get? d.start = some symbol) :
      Surrounded body (d :: above) (some symbol) aliases
  | withBody {w body : Node} {above : List Node} {scope : Option Symbol} {aliases : Aliases}
      (h : Surrounded w above scope aliases) (hw : w.kind = "with_statement")
      (hb : body.isBodyOf w = true) :
      Surrounded body (w :: above) scope
        (ctx.aliasesOf (ctx.index.scopeChain scope) w ++ aliases)
  | elsewhere {parent n : Node} {above : List Node} {scope : Option Symbol} {aliases : Aliases}
      (h : Surrounded parent above scope aliases)
      (hdef : isPlainDefinition parent.kind = true → n.isBodyOf parent = true →
        ctx.symbolAt.get? parent.start = none)
      (hwith : parent.kind = "with_statement" → n.isBodyOf parent = false) :
      Surrounded n (parent :: above) scope aliases

theorem surrounded_surroundingsAt (n : Node) (above : List Node) :
    ctx.Surrounded n above (ctx.surroundingsAt n above).scope
      (ctx.surroundingsAt n above).aliases := by
  induction above generalizing n with
  | nil => exact .root n
  | cons parent above ih =>
      have hparent := ih parent
      rw [surroundingsAt]
      rcases ctx.step_cases parent n with ⟨symbol, hd, hb, hs⟩ | ⟨hw, hb⟩ | ⟨hdef, hwith⟩
      · rw [ctx.enter_definitionBody hd hb hs]
        exact .definitionBody hparent hd hb hs
      · rw [ctx.enter_withBody hw hb]
        exact .withBody hparent hw hb
      · rw [ctx.enter_elsewhere hdef hwith]
        exact .elsewhere hparent hdef hwith

theorem Surrounded.eq_surroundingsAt {n : Node} {above : List Node} {scope : Option Symbol}
    {aliases : Aliases} (h : ctx.Surrounded n above scope aliases) :
    scope = (ctx.surroundingsAt n above).scope ∧
      aliases = (ctx.surroundingsAt n above).aliases := by
  induction h with
  | root n => exact ⟨rfl, rfl⟩
  | definitionBody h hd hb hs ih =>
      rw [surroundingsAt, ctx.enter_definitionBody hd hb hs]
      exact ⟨rfl, ih.2⟩
  | withBody h hw hb ih =>
      rw [surroundingsAt, ctx.enter_withBody hw hb]
      obtain ⟨rfl, rfl⟩ := ih
      exact ⟨rfl, rfl⟩
  | elsewhere h hdef hwith ih =>
      rw [surroundingsAt, ctx.enter_elsewhere hdef hwith]
      exact ih

theorem surrounded_iff {n : Node} {above : List Node} {scope : Option Symbol}
    {aliases : Aliases} :
    ctx.Surrounded n above scope aliases ↔
      scope = (ctx.surroundingsAt n above).scope ∧
        aliases = (ctx.surroundingsAt n above).aliases := by
  constructor
  · exact Surrounded.eq_surroundingsAt ctx
  · rintro ⟨rfl, rfl⟩
    exact ctx.surrounded_surroundingsAt n above

theorem surrounded_iff_of_not_body {parent n : Node} {above : List Node} {scope : Option Symbol}
    {aliases : Aliases} (hb : n.isBodyOf parent = false) :
    ctx.Surrounded n (parent :: above) scope aliases ↔
      ctx.Surrounded parent above scope aliases := by
  rw [surrounded_iff, surrounded_iff, surroundingsAt,
    ctx.enter_elsewhere (by simp [hb]) (fun _ => hb)]

/-- The innermost definition with a symbol in whose body a node stands. -/
def scopeNode? : Node → List Node → Option Node
  | _, [] => none
  | n, parent :: above =>
    if isPlainDefinition parent.kind && n.isBodyOf parent &&
        (ctx.symbolAt.get? parent.start).isSome then some parent
    else scopeNode? parent above

theorem scope_surroundingsAt (n : Node) (above : List Node) :
    (ctx.surroundingsAt n above).scope =
      (ctx.scopeNode? n above).bind fun d => ctx.symbolAt.get? d.start := by
  induction above generalizing n with
  | nil => rfl
  | cons parent above ih =>
      have hparent := ih parent
      rw [surroundingsAt, scopeNode?]
      rcases ctx.step_cases parent n with ⟨symbol, hd, hb, hs⟩ | ⟨hw, hb⟩ | ⟨hdef, hwith⟩
      · rw [ctx.enter_definitionBody hd hb hs, if_pos (by simp [hd, hb, hs]), Option.bind_some, hs]
      · have hd : ¬ isPlainDefinition parent.kind = true :=
          fun hd => kind_ne_with_of_isPlainDefinition hd hw
        rw [ctx.enter_withBody hw hb, if_neg (by simp [hd]), hparent]
      · have hscope : ¬ (isPlainDefinition parent.kind && n.isBodyOf parent &&
            (ctx.symbolAt.get? parent.start).isSome) = true := by
          simpa using hdef
        rw [ctx.enter_elsewhere hdef hwith, if_neg hscope, hparent]

theorem of_scopeNode? {n d : Node} {above : List Node} (h : ctx.scopeNode? n above = some d) :
    isPlainDefinition d.kind = true ∧ (∃ s, ctx.symbolAt.get? d.start = some s) ∧
      ∃ inner outer, above = inner ++ d :: outer := by
  induction above generalizing n with
  | nil => exact absurd h (by simp [scopeNode?])
  | cons parent above ih =>
      rw [scopeNode?] at h
      split at h
      · rename_i hcond
        cases h
        simp only [Bool.and_eq_true] at hcond
        exact ⟨hcond.1.1, Option.isSome_iff_exists.mp hcond.2, [], above, rfl⟩
      · obtain ⟨hplain, hs, inner, outer, rfl⟩ := ih h
        exact ⟨hplain, hs, parent :: inner, outer, rfl⟩

/-- Two nodes are reached by the same course: step by step the nodes above have the same kind and
start, the path goes on into the body of both or of none, and `with` statements whose body it enters
bind the same names. Nothing is asked of what stands beside the path. -/
inductive SameCourse : Node → List Node → Node → List Node → Prop where
  | root (n n' : Node) : SameCourse n [] n' []
  | step {n n' parent parent' : Node} {above above' : List Node}
      (h : SameCourse parent above parent' above') (hkind : parent.kind = parent'.kind)
      (hstart : parent.start = parent'.start)
      (hbody : n.isBodyOf parent = n'.isBodyOf parent')
      (hwith : parent.kind = "with_statement" → n.isBodyOf parent = true →
        ∀ chain, ctx.aliasesOf chain parent = ctx.aliasesOf chain parent') :
      SameCourse n (parent :: above) n' (parent' :: above')

theorem SameCourse.surroundingsAt_eq {n n' : Node} {above above' : List Node}
    (h : ctx.SameCourse n above n' above') :
    (ctx.surroundingsAt n above).scope = (ctx.surroundingsAt n' above').scope ∧
      (ctx.surroundingsAt n above).aliases = (ctx.surroundingsAt n' above').aliases := by
  induction h with
  | root n n' => exact ⟨rfl, rfl⟩
  | @step n n' parent parent' above above' _ hkind hstart hbody hwith ih =>
      obtain ⟨hscope, haliases⟩ := ih
      simp only [surroundingsAt, enter, hscope, haliases, ← hkind, ← hstart, ← hbody, true_and]
      split
      · rename_i hw
        simp only [Bool.and_eq_true, beq_iff_eq] at hw
        rw [hwith hw.1 hw.2]
      · rfl

end CallContext

end SourceFacts
