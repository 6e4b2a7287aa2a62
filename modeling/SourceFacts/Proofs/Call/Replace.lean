import SourceFacts.Proofs.Call.Surroundings
import SourceFacts.Proofs.Syntax.Replace

/-!
# Calls around a statement that gave way

The calls outside of a statement that gave way stay as they are. Those inside are compared where the
statement stands, with surroundings that are alike.
-/

namespace SourceFacts

open Definitions (isPlainDefinition)
open Node (Replaces Exchange)

/-- The nearest node above that is no part of a context opens an asynchronous one. -/
def opensAsync (above : List Node) : Bool :=
  (above.dropWhile Node.isContextPart).head?.any fun n =>
    n.kind == "with_statement" && n.hasChild "async"

theorem opensAsync_cons (n : Node) (above : List Node) :
    opensAsync (n :: above) =
      if n.isContextPart then opensAsync above
      else n.kind == "with_statement" && n.hasChild "async" := by
  unfold opensAsync
  rw [List.dropWhile_cons]
  split <;> rfl

theorem isAsyncUse_cons (n : Node) (above : List Node) :
    isAsyncUse (n :: above) =
      (n.kind == "await" ||
        ((n.kind == "as_pattern" || n.kind == "with_item") && opensAsync above)) := by
  rw [isAsyncUse]
  cases hpart : (n.kind == "as_pattern" || n.kind == "with_item") with
  | false => rfl
  | true =>
      have hcontext : n.isContextPart = true := by rw [Node.isContextPart, hpart]; rfl
      rw [List.dropWhile_cons_of_pos hcontext]
      rfl

/-- The same holds at two nodes. -/
structure Surroundings.Alike (s s' : Surroundings) : Prop where
  scope : s'.scope = s.scope
  aliases : s'.aliases = s.aliases
  awaited : isAsyncUse s'.above = isAsyncUse s.above
  opens : opensAsync s'.above = opensAsync s.above

theorem Surroundings.alike_rfl (s : Surroundings) : s.Alike s := ⟨rfl, rfl, rfl, rfl⟩

namespace CallContext

variable (ctx : CallContext)

/-- The two nodes make the same of what holds above them. -/
structure SameFrame (n n' : Node) : Prop where
  label : n'.label = n.label
  body : (n'.child? "body").map Node.start = (n.child? "body").map Node.start
  aliases : n.kind = "with_statement" → ∀ chain, ctx.aliasesOf chain n' = ctx.aliasesOf chain n
  async : n.kind = "with_statement" → n'.hasChild "async" = n.hasChild "async"

theorem aliasesOf_of_outlines {n n' : Node}
    (h : n'.children.map Node.outline = n.children.map Node.outline) (chain : List Symbol) :
    ctx.aliasesOf chain n' = ctx.aliasesOf chain n := by
  have hitem : ctx.aliasOfItem? chain ∘ Node.outline = ctx.aliasOfItem? chain :=
    funext (ctx.aliasOfItem?_outline chain)
  have hread : ∀ m : Node, ctx.aliasesOf chain m =
      ((((m.children.map Node.outline).filter Node.isContent).filter fun c =>
        c.kind == "with_clause").flatMap fun c => c.contents.filterMap (ctx.aliasOfItem? chain)).reverse := by
    intro m
    rw [Node.filter_map_outline Node.isContent_outline,
      Node.filter_map_outline (p := fun c => c.kind == "with_clause") fun c => by
        rw [Node.kind_outline], List.flatMap_map, aliasesOf, List.filterMap_flatMap]
    refine congrArg List.reverse (List.flatMap_congr fun c hc => ?_)
    rw [Node.contents_outline (Node.isOpaque_of_kind (List.mem_filter.mp hc).2 (by decide)),
      List.filterMap_map, hitem]
  rw [hread, hread, h]

theorem sameFrame_of_replaces {allowed : Label → Prop} {s s' n n' : Node}
    (hx : Exchange allowed s s') (h : Replaces allowed s s' n n') : ctx.SameFrame n n' := by
  have houtlines : n.kind = "with_statement" →
      n'.children.map Node.outline = n.children.map Node.outline := by
    intro hkind
    refine h.map_outline_children hx ?_ ?_
    · rw [hkind]; decide
    · rw [hkind]; decide
  refine ⟨h.label_eq, ?_, fun hkind => ctx.aliasesOf_of_outlines (houtlines hkind), fun hkind => ?_⟩
  · have hlabel := congrArg (Option.map Label.start) (h.map_label_child? hx "body")
    rw [Option.map_map, Option.map_map] at hlabel
    exact hlabel
  · have hread : ∀ m : Node, m.hasChild "async" =
        (m.children.map Node.outline).any fun c => c.kind == "async" := by
      intro m
      rw [List.any_map, Node.hasChild]
      exact congrArg m.children.any (funext fun c => by rw [Function.comp_apply, Node.kind_outline])
    rw [hread, hread, houtlines hkind]

theorem sameFrame_rfl (n : Node) : ctx.SameFrame n n := ⟨rfl, rfl, fun _ _ => rfl, fun _ => rfl⟩

section Alike

variable {ctx} {σ σ' : Surroundings} (hσ : σ.Alike σ')

include hσ

theorem enter_alike {n n' c c' : Node} (hframe : ctx.SameFrame n n') (hlabel : c'.label = c.label) :
    (ctx.enter σ n c).Alike (ctx.enter σ' n' c') := by
  have hkind : n'.kind = n.kind := congrArg Label.kind hframe.label
  have hstart : n'.start = n.start := congrArg Label.start hframe.label
  have hbody : c'.isBodyOf n' = c.isBodyOf n := by
    have hread : ∀ a b : Node, a.isBodyOf b =
        (((b.child? "body").map Node.start).any (a.start == ·) && a.kind == "block") := by
      intro a b
      rw [Node.isBodyOf, Option.any_map]
    rw [hread, hread, hframe.body, Node.start, Node.start, Node.kind, Node.kind, hlabel]
  constructor
  · simp only [enter, hkind, hstart, hbody, hσ.scope]
  · simp only [enter, hkind, hbody, hσ.aliases, hσ.scope]
    split
    · rename_i h
      rw [hframe.aliases (beq_iff_eq.mp (Bool.and_eq_true_iff.mp h).1)]
    · rfl
  · simp only [enter, isAsyncUse_cons, hkind, hσ.opens]
  · have hasync : (n.kind == "with_statement" && n'.hasChild "async") =
        (n.kind == "with_statement" && n.hasChild "async") := by
      cases hwith : n.kind == "with_statement" with
      | false => rfl
      | true => rw [hframe.async (beq_iff_eq.mp hwith)]
    have hpart : n'.isContextPart = n.isContextPart := by
      rw [Node.isContextPart, Node.isContextPart, hkind]
    simp only [enter, opensAsync_cons, hσ.opens, hpart, hkind, hasync]

theorem callSite_alike {n n' : Node} (hkind : n.kind = "call") (houtline : n'.outline = n.outline) :
    ctx.callSite σ' n' = ctx.callSite σ n := by
  have hopaque : Node.isOpaque n.kind = false := by rw [hkind]; decide
  have hkind' : n'.kind = n.kind := by rw [← Node.kind_outline, houtline, Node.kind_outline]
  have hread : ∀ m : Node, Node.isOpaque m.kind = false → ctx.callSite σ m.outline = ctx.callSite σ m := by
    intro m hm
    unfold callSite
    rw [Node.child?_outline hm]
    cases m.child? "function" with
    | none => simp only [Option.map_none, Source.line_outline, Source.column_outline]
    | some f =>
        have htext : ctx.src.textOf (some f.outline) = ctx.src.textOf (some f) :=
          ctx.src.text_outline f
        simp only [Option.map_some, resolve?_outline, htext, Source.line_outline,
          Source.column_outline, Node.kind_outline]
  have hsite : ctx.callSite σ' n' = ctx.callSite σ n' := by
    unfold callSite
    rw [hσ.scope, hσ.aliases, hσ.awaited]
  rw [hsite, ← hread n' (hkind' ▸ hopaque), houtline, hread n hopaque]

end Alike

mutual

theorem callsFrom_alike {σ σ' : Surroundings} (hσ : σ.Alike σ') :
    (n : Node) → ctx.callsFrom σ' n = ctx.callsFrom σ n
  | .node l cs => by
      rw [callsFrom, callsFrom, callsAmong_alike hσ (ctx.sameFrame_rfl _) cs]
      split
      · rename_i hcall
        have hkind : (Node.node l cs).kind = "call" := beq_iff_eq.mp hcall
        rw [callSite_alike hσ hkind rfl]
      · rfl

theorem callsAmong_alike {σ σ' : Surroundings} (hσ : σ.Alike σ') {p p' : Node}
    (hframe : ctx.SameFrame p p') :
    (ns : List Node) → ctx.callsAmong σ' p' ns = ctx.callsAmong σ p ns
  | [] => by rw [callsAmong, callsAmong]
  | n :: ns => by
      rw [callsAmong, callsAmong, callsFrom_alike (enter_alike hσ hframe rfl) n,
        callsAmong_alike hσ hframe ns]

end

theorem enter_of_kind (σ : Surroundings) {parent : Node} (child : Node)
    (hplain : isPlainDefinition parent.kind = false) (hwith : parent.kind ≠ "with_statement") :
    ctx.enter σ parent child = { σ with above := parent :: σ.above } :=
  ctx.enter_elsewhere (fun hdef => absurd (hdef.symm.trans hplain) (by decide))
    fun hw => absurd hw hwith

theorem callsFrom_of_kind (σ : Surroundings) {n : Node} (h : n.kind ≠ "call") :
    ctx.callsFrom σ n = ctx.callsAmong σ n n.children := by
  cases n with
  | node l cs =>
      have hkind : ¬ (l.kind == "call") = true := fun hcall => h (beq_iff_eq.mp hcall)
      rw [callsFrom, if_neg hkind, Node.children_node]

theorem callsAmong_singleton (σ : Surroundings) (p n : Node) :
    ctx.callsAmong σ p [n] = ctx.callsFrom (ctx.enter σ p n) n := by
  rw [callsAmong, callsAmong, List.append_nil]

theorem callsAmong_append (σ : Surroundings) (p : Node) (ns ms : List Node) :
    ctx.callsAmong σ p (ns ++ ms) = ctx.callsAmong σ p ns ++ ctx.callsAmong σ p ms := by
  induction ns with
  | nil => rw [List.nil_append, callsAmong, List.nil_append]
  | cons n ns ih => rw [List.cons_append, callsAmong, callsAmong, ih, List.append_assoc]

/-- The two calls have one call site, and show readers of expressions the same. -/
def SameCall (c c' : CallSite × Node) : Prop :=
  c'.1 = c.1 ∧ (c'.2 = c.2 ∨ (c.2.kind = "call" ∧ c'.2.outline = c.2.outline))

theorem sameCall_rfl (c : CallSite × Node) : SameCall c c := ⟨rfl, Or.inl rfl⟩

theorem sameCalls_rfl (calls : List (CallSite × Node)) : List.Forall₂ SameCall calls calls :=
  List.forall₂_same.mpr fun c _ => sameCall_rfl c

/-- The relation still holds when calls that stay are added before and after. -/
def KeptAround (L : List (CallSite × Node) → List (CallSite × Node) → Prop) : Prop :=
  ∀ {a a' m m' b b'}, List.Forall₂ SameCall a a' → L m m' → List.Forall₂ SameCall b b' →
    L (a ++ (m ++ b)) (a' ++ (m' ++ b'))

theorem keptAround_sameCalls : KeptAround (List.Forall₂ SameCall) :=
  fun ha hm hb => List.rel_append ha (List.rel_append hm hb)

section Replaces

variable {allowed : Label → Prop} {s s' : Node} (hx : Exchange allowed s s')
variable {L : List (CallSite × Node) → List (CallSite × Node) → Prop} (hL : KeptAround L)

include hx hL

/-- The calls of a node are related if those of the child that gave way are. -/
theorem callsFrom_of_child {l : Label} {before after : List Node} {c c' : Node}
    (h : Replaces allowed s s' (.node l (before ++ c :: after)) (.node l (before ++ c' :: after)))
    {σ σ' : Surroundings} (hσ : σ.Alike σ')
    (hc : L (ctx.callsFrom (ctx.enter σ (.node l (before ++ c :: after)) c) c)
      (ctx.callsFrom (ctx.enter σ' (.node l (before ++ c' :: after)) c') c')) :
    L (ctx.callsFrom σ (.node l (before ++ c :: after)))
      (ctx.callsFrom σ' (.node l (before ++ c' :: after))) := by
  have hframe := ctx.sameFrame_of_replaces hx h
  have hsplit : ∀ τ p d, ctx.callsAmong τ p (before ++ d :: after) =
      ctx.callsAmong τ p before ++ (ctx.callsFrom (ctx.enter τ p d) d ++ ctx.callsAmong τ p after) := by
    intro τ p d
    rw [callsAmong_append, callsAmong]
  rw [callsFrom, callsFrom, hsplit, hsplit, ctx.callsAmong_alike hσ hframe before,
    ctx.callsAmong_alike hσ hframe after]
  split
  · rename_i hcall
    have hkind := beq_iff_eq.mp hcall
    have houtline := h.outline_eq hx
    rw [← List.cons_append, ← List.cons_append]
    exact hL (.cons ⟨callSite_alike hσ hkind houtline, Or.inr ⟨hkind, houtline⟩⟩ (sameCalls_rfl _))
      hc (sameCalls_rfl _)
  · exact hL (sameCalls_rfl _) hc (sameCalls_rfl _)

theorem callsFrom_replaced {n n' : Node} (h : Replaces allowed s s' n n')
    (hole : ∀ l before after σ σ', allowed l → Surroundings.Alike σ σ' →
      L (ctx.callsFrom (ctx.enter σ (.node l (before ++ s :: after)) s) s)
        (ctx.callsFrom (ctx.enter σ' (.node l (before ++ s' :: after)) s') s'))
    {σ σ' : Surroundings} (hσ : σ.Alike σ') : L (ctx.callsFrom σ n) (ctx.callsFrom σ' n') := by
  induction h generalizing σ σ' with
  | @here l before after hl =>
      exact ctx.callsFrom_of_child hx hL (.here hl) hσ (hole l before after σ σ' hl hσ)
  | @inside l before after c c' h ih =>
      have hframe := ctx.sameFrame_of_replaces hx
        (@Replaces.inside allowed s s' l before after c c' h)
      have henter := enter_alike hσ hframe h.label_eq
      exact ctx.callsFrom_of_child hx hL (.inside h) hσ (ih henter)

end Replaces

end CallContext

end SourceFacts
