import SourceFacts.Proofs.Call.Priority
import SourceFacts.Proofs.Call.Replace
import SourceFacts.Proofs.Syntax.NestedWith

/-!
# Calls in nested `with` statements

A `with` statement with several items and the nested statements with one item each hand the same names on
to the body. Among the items they differ: those of a single statement see none of its names.
-/

namespace SourceFacts

open Definitions (isPlainDefinition)
open Node (IsClause IsWith Nests)

/-! ## Names that are bound in between -/

/-- The call site if the call goes through a name that is bound to a module. -/
def CallSite.through (c : CallSite) (name module : String) : CallSite :=
  { c with
    kind := .importQualified
    targetModule := some module
    targetSymbol := nonEmpty? (Text.laterParts name)
    receiver := some (Text.firstPart name)
    isBuiltin := false }

/-- What some items bind, the latest first. -/
def CallContext.boundBy (ctx : CallContext) (chain : List Symbol) (items : List Node) : Aliases :=
  ((items.filter Node.isContent).filterMap (ctx.aliasOfItem? chain)).reverse

/-- The two calls are the same, unless the name that they go through is bound by the items: then the
first one goes elsewhere, or nowhere, and the second one to the module that the name is bound to. -/
def SameUnlessThrough (ctx : CallContext) (chain : List Symbol) (items : List Node)
    (c c' : CallSite × Node) : Prop :=
  c' = c ∨ ∃ name module, c.2.callee? ctx.src = some name ∧
    (ctx.boundBy chain items).lookup (Text.firstPart name) = some module ∧ c.1.IsForeign ∧
    c' = (c.1.through name module, c.2)

/-- The calls of some items, in a single statement and in nested ones, given the items before. The single
statement reads all its items with what holds at its clause. -/
inductive ItemCalls (ctx : CallContext) (s : Surroundings) : List Node → List Node →
    List (CallSite × Node) → List (CallSite × Node) → Prop where
  | nil {earlier : List Node} : ItemCalls ctx s earlier [] [] []
  | cons {earlier items : List Node} {item : Node} {a a' b b' : List (CallSite × Node)}
      (read : a = ctx.callsFrom s item)
      (nodes : a.map (·.2) = item.preorder.filter fun n => n.kind == "call")
      (same : List.Forall₂ (SameUnlessThrough ctx (ctx.index.scopeChain s.scope) earlier) a a')
      (rest : ItemCalls ctx s (earlier ++ [item]) items b b') :
      ItemCalls ctx s earlier (item :: items) (a ++ b) (a' ++ b')

/-- No call of an item goes through a name that an item before binds. -/
def Independent (src : Source) (items : List Node) : Prop :=
  items.Pairwise fun a b => ∀ bound ∈ a.boundName? src, b.callsThrough src bound = false

instance (src : Source) (items : List Node) : Decidable (Independent src items) :=
  inferInstanceAs (Decidable (List.Pairwise _ items))

/-- The same holds at two nodes, except that the second one sees more names, which hide some that are
bound further out. -/
structure Surroundings.Inserted (between : Aliases) (s s' : Surroundings) : Prop where
  alike : s.Alike { s' with aliases := s.aliases }
  aliases : ∃ inner outer, s.aliases = inner ++ outer ∧ s'.aliases = inner ++ (between ++ outer)

/-- A node below is not awaited, and opens a context that is asynchronous or not. -/
structure Surroundings.Opens (isAsync : Bool) (scope : Option Symbol) (aliases : Aliases)
    (s : Surroundings) : Prop where
  scope_eq : s.scope = scope
  aliases_eq : s.aliases = aliases
  awaited : isAsyncUse s.above = false
  opens : opensAsync s.above = isAsync

theorem Surroundings.Opens.alike {isAsync : Bool} {scope : Option Symbol} {aliases : Aliases}
    {s s' : Surroundings} (h : s.Opens isAsync scope aliases) (h' : s'.Opens isAsync scope aliases) :
    s.Alike s' where
  scope := h'.scope_eq.trans h.scope_eq.symm
  aliases := h'.aliases_eq.trans h.aliases_eq.symm
  awaited := h'.awaited.trans h.awaited.symm
  opens := h'.opens.trans h.opens.symm

theorem Surroundings.Opens.inserted {isAsync : Bool} {scope : Option Symbol}
    {between aliases : Aliases} {s s' : Surroundings} (h : s.Opens isAsync scope aliases)
    (h' : s'.Opens isAsync scope (between ++ aliases)) : s.Inserted between s' where
  alike := ⟨h'.scope_eq.trans h.scope_eq.symm, rfl, h'.awaited.trans h.awaited.symm,
    h'.opens.trans h.opens.symm⟩
  aliases := ⟨[], aliases, h.aliases_eq, h'.aliases_eq⟩

namespace CallContext

variable (ctx : CallContext)

theorem boundBy_append (chain : List Symbol) (items items' : List Node) :
    ctx.boundBy chain (items ++ items') = ctx.boundBy chain items' ++ ctx.boundBy chain items := by
  rw [boundBy, List.filter_append, List.filterMap_append, List.reverse_append]
  rfl

theorem boundName?_of_aliasOfItem? {chain : List Symbol} {item : Node} {e : String × String}
    (h : ctx.aliasOfItem? chain item = some e) : item.boundName? ctx.src = some e.1 := by
  unfold aliasOfItem? at h
  obtain ⟨_, _, h⟩ := Option.bind_eq_some_iff.mp h
  obtain ⟨value, hvalue, h⟩ := Option.bind_eq_some_iff.mp h
  obtain ⟨_, _, h⟩ := Option.bind_eq_some_iff.mp h
  obtain ⟨_, _, h⟩ := Option.bind_eq_some_iff.mp h
  obtain ⟨bound, hbound, h⟩ := Option.bind_eq_some_iff.mp h
  obtain ⟨_, _, h⟩ := Option.bind_eq_some_iff.mp h
  obtain ⟨_, _, h⟩ := Option.bind_eq_some_iff.mp h
  obtain ⟨_, _, h⟩ := Option.bind_eq_some_iff.mp h
  rw [Node.boundName?, hvalue, Option.bind_some, hbound, ← Option.some.inj h]
  rfl

theorem exists_item_of_lookup {chain : List Symbol} {items : List Node} {head module : String}
    (h : (ctx.boundBy chain items).lookup head = some module) :
    ∃ item ∈ items, item.boundName? ctx.src = some head := by
  have hmem := List.mem_reverse.mp (mem_of_lookup h)
  obtain ⟨item, hitem, halias⟩ := List.mem_filterMap.mp hmem
  exact ⟨item, (List.mem_filter.mp hitem).1, ctx.boundName?_of_aliasOfItem? halias⟩

variable {ctx} in
theorem eq_of_sameUnlessThrough {chain : List Symbol} {items : List Node} {item : Node}
    {c c' : CallSite × Node} (h : SameUnlessThrough ctx chain items c c')
    (hnode : c.2 ∈ item.preorder.filter fun n => n.kind == "call")
    (hfree : ∀ a ∈ items, ∀ bound ∈ a.boundName? ctx.src, item.callsThrough ctx.src bound = false) :
    c' = c := by
  rcases h with heq | ⟨name, module, hcallee, hlookup, _, _⟩
  · exact heq
  · obtain ⟨a, ha, hbound⟩ := ctx.exists_item_of_lookup hlookup
    obtain ⟨hmem, hcall⟩ := List.mem_filter.mp hnode
    have hthrough : item.callsThrough ctx.src (Text.firstPart name) = true := by
      refine List.any_eq_true.mpr ⟨c.2, hmem, ?_⟩
      rw [hcall, hcallee]
      simp
    rw [hfree a ha _ hbound] at hthrough
    exact absurd hthrough Bool.false_ne_true

variable {ctx} in
theorem eq_of_itemCalls {s : Surroundings} {earlier items : List Node}
    {calls calls' : List (CallSite × Node)} (h : ItemCalls ctx s earlier items calls calls')
    (hfree : Independent ctx.src (earlier ++ items)) : calls' = calls := by
  induction h with
  | nil => rfl
  | @cons earlier items item a a' b b' read nodes same rest ih =>
      have hitem : ∀ e ∈ earlier, ∀ bound ∈ e.boundName? ctx.src,
          item.callsThrough ctx.src bound = false :=
        fun e he => (List.pairwise_append.mp hfree).2.2 e he item List.mem_cons_self
      have hsame : ∀ c ∈ a, ∀ c',
          SameUnlessThrough ctx (ctx.index.scopeChain s.scope) earlier c c' → c' = c :=
        fun c hc c' hcc' => eq_of_sameUnlessThrough hcc' (nodes ▸ List.mem_map_of_mem hc) hitem
      have ha : a' = a := by
        clear nodes read
        induction same with
        | nil => rfl
        | cons hc _ ih =>
            rw [hsame _ List.mem_cons_self _ hc,
              ih fun c hc => hsame c (List.mem_cons_of_mem _ hc)]
      rw [ha, ih (by rw [List.append_assoc]; exact hfree)]

theorem resolveImported?_of_lookup {chain : List Symbol} {aliases aliases' : Aliases} {f : Node}
    (h : ∀ name, dottedName? ctx.src f = some name →
      aliases'.lookup (Text.firstPart name) = aliases.lookup (Text.firstPart name)) :
    ctx.resolveImported? chain aliases' f = ctx.resolveImported? chain aliases f := by
  unfold resolveImported?
  cases hname : dottedName? ctx.src f with
  | none => rfl
  | some name =>
      simp only [bind, Option.bind]
      rw [h name hname]

theorem resolveImported?_of_bound (chain : List Symbol) {aliases : Aliases} {f : Node}
    {name module : String} (hname : dottedName? ctx.src f = some name)
    (h : aliases.lookup (Text.firstPart name) = some module) :
    ctx.resolveImported? chain aliases f =
      some { kind := .importQualified, targetModule := some module
             targetSymbol := nonEmpty? (Text.laterParts name)
             receiver := some (Text.firstPart name) } := by
  unfold resolveImported?
  simp only [hname, bind, Option.bind, h]
  rfl

section Inserted

variable {ctx} {between : Aliases} {σ σ' : Surroundings} (hσ : σ.Inserted between σ')

include hσ

theorem enter_inserted (n c : Node) : (ctx.enter σ n c).Inserted between (ctx.enter σ' n c) := by
  obtain ⟨inner, outer, houter, houter'⟩ := hσ.aliases
  have henter := enter_alike hσ.alike (ctx.sameFrame_rfl n) (c := c) rfl
  refine ⟨⟨henter.scope, rfl, henter.awaited, henter.opens⟩, ?_⟩
  have hscope : σ'.scope = σ.scope := hσ.alike.scope
  unfold enter
  dsimp only
  rw [hscope, houter, houter']
  split
  -- The names of a statement further in hide those in between, so they join the inner part.
  · exact ⟨ctx.aliasesOf (ctx.index.scopeChain σ.scope) n ++ inner, outer, by simp, by simp⟩
  · exact ⟨inner, outer, rfl, rfl⟩

theorem callSite_of_resolve {call : Node}
    (h : ∀ f, call.child? "function" = some f →
      ctx.resolve? (ctx.index.scopeChain σ.scope) σ'.aliases f =
        ctx.resolve? (ctx.index.scopeChain σ.scope) σ.aliases f) :
    ctx.callSite σ' call = ctx.callSite σ call := by
  have hscope : σ'.scope = σ.scope := hσ.alike.scope
  have hawaited : isAsyncUse σ'.above = isAsyncUse σ.above := hσ.alike.awaited
  unfold callSite
  rw [hscope, hawaited]
  cases hfunction : call.child? "function" with
  | none => rfl
  | some f =>
      dsimp only
      rw [h f hfunction]

omit hσ in
theorem resolve?_of_lookup {f : Node} (chain : List Symbol)
    (h : ∀ name, dottedName? ctx.src f = some name →
      σ'.aliases.lookup (Text.firstPart name) = σ.aliases.lookup (Text.firstPart name)) :
    ctx.resolve? chain σ'.aliases f = ctx.resolve? chain σ.aliases f := by
  unfold resolve?
  rw [ctx.resolveImported?_of_lookup h]

theorem lookup_inserted (head : String) :
    σ'.aliases.lookup head = σ.aliases.lookup head ∨
      ∃ module, between.lookup head = some module ∧ σ'.aliases.lookup head = some module := by
  obtain ⟨inner, outer, haliases, haliases'⟩ := hσ.aliases
  rw [haliases, haliases', List.lookup_append, List.lookup_append, List.lookup_append]
  cases inner.lookup head with
  | some module => exact Or.inl rfl
  | none =>
      cases between.lookup head with
      | none => exact Or.inl rfl
      | some module => exact Or.inr ⟨module, rfl, rfl⟩

/-- Where the first two rules find nothing, a call through a bound name goes to its module. -/
theorem callSite_through {call f : Node} {name module : String}
    (hlocal : ctx.localRule? σ call = none) (hfunction : call.child? "function" = some f)
    (hname : dottedName? ctx.src f = some name)
    (hbound : σ'.aliases.lookup (Text.firstPart name) = some module) :
    (ctx.callSite σ call).IsForeign ∧
      ctx.callSite σ' call = (ctx.callSite σ call).through name module := by
  have hscope : σ'.scope = σ.scope := hσ.alike.scope
  have hawaited : isAsyncUse σ'.above = isAsyncUse σ.above := hσ.alike.awaited
  obtain ⟨kind, targetModule, targetSymbol, isBuiltin, receiver, hkind, hsite⟩ :=
    callSite_of_no_localRule hlocal
  have hresolve := (resolve?_of_no_localRule hlocal hfunction σ'.aliases).trans
    (ctx.resolveImported?_of_bound _ hname hbound)
  refine ⟨hsite ▸ hkind, ?_⟩
  rw [hsite]
  unfold callSite
  rw [hscope, hawaited, hfunction]
  dsimp only
  rw [hresolve, CallSite.through, bareSite, hfunction]

/-- A call is the same, unless it goes through one of the names that are bound in between. -/
theorem callSite_inserted (call : Node) :
    ctx.callSite σ' call = ctx.callSite σ call ∨
      ∃ name module, call.callee? ctx.src = some name ∧
        between.lookup (Text.firstPart name) = some module ∧ (ctx.callSite σ call).IsForeign ∧
        ctx.callSite σ' call = (ctx.callSite σ call).through name module := by
  have hsame : (∀ f name, call.child? "function" = some f → dottedName? ctx.src f = some name →
      σ'.aliases.lookup (Text.firstPart name) = σ.aliases.lookup (Text.firstPart name)) →
      ctx.callSite σ' call = ctx.callSite σ call := fun h =>
    callSite_of_resolve hσ fun f hf => resolve?_of_lookup _ fun name => h f name hf
  cases hcallee : call.callee? ctx.src with
  | none =>
      refine Or.inl (hsame fun f name hf hname => ?_)
      rw [Node.callee?, hf, Option.bind_some, hname] at hcallee
      exact absurd hcallee (by simp)
  | some name =>
      obtain ⟨f, hfunction, hname⟩ := Option.bind_eq_some_iff.mp hcallee
      rcases lookup_inserted hσ (Text.firstPart name) with hlookup | ⟨module, hbetween, hbound⟩
      · refine Or.inl (hsame fun g name' hg hname' => ?_)
        cases hfunction.symm.trans hg
        cases hname.symm.trans hname'
        exact hlookup
      cases hlocal : ctx.localRule? σ call with
      | none =>
          obtain ⟨hforeign, hthrough⟩ := callSite_through hσ hlocal hfunction hname hbound
          exact Or.inr ⟨name, module, rfl, hbetween, hforeign, hthrough⟩
      | some r =>
          refine Or.inl (callSite_of_resolve hσ fun g hg => ?_)
          rw [resolve?_of_localRule hlocal hg, resolve?_of_localRule hlocal hg]

end Inserted

mutual

theorem callsFrom_inserted {chain : List Symbol} {items : List Node} {σ σ' : Surroundings}
    (hσ : σ.Inserted (ctx.boundBy chain items) σ') : (n : Node) →
    List.Forall₂ (SameUnlessThrough ctx chain items) (ctx.callsFrom σ n) (ctx.callsFrom σ' n)
  | .node l cs => by
      have hbelow := callsAmong_inserted hσ (.node l cs) cs
      rw [callsFrom, callsFrom]
      split
      · refine .cons ?_ hbelow
        rcases callSite_inserted hσ (.node l cs) with
          heq | ⟨name, module, hcallee, hlookup, hforeign, hthrough⟩
        · exact Or.inl (by rw [heq])
        · exact Or.inr ⟨name, module, hcallee, hlookup, hforeign, by rw [hthrough]⟩
      · exact hbelow

theorem callsAmong_inserted {chain : List Symbol} {items : List Node} {σ σ' : Surroundings}
    (hσ : σ.Inserted (ctx.boundBy chain items) σ') (p : Node) : (ns : List Node) →
    List.Forall₂ (SameUnlessThrough ctx chain items) (ctx.callsAmong σ p ns) (ctx.callsAmong σ' p ns)
  | [] => by
      rw [callsAmong, callsAmong]
      exact .nil
  | n :: ns => by
      rw [callsAmong, callsAmong]
      exact List.rel_append (callsFrom_inserted (enter_inserted hσ p n) n)
        (callsAmong_inserted hσ p ns)

end

mutual

theorem map_snd_callsFrom (σ : Surroundings) : (n : Node) →
    (ctx.callsFrom σ n).map (·.2) = n.preorder.filter fun c => c.kind == "call"
  | .node l cs => by
      have hbelow := map_snd_callsAmong σ (.node l cs) cs
      rw [callsFrom, Node.preorder_eq, List.filter_cons, Node.children_node, ← hbelow]
      cases hcall : l.kind == "call" with
      | true => simp [Node.kind, hcall]
      | false => simp [Node.kind, hcall]

theorem map_snd_callsAmong (σ : Surroundings) (p : Node) : (ns : List Node) →
    (ctx.callsAmong σ p ns).map (·.2) =
      (ns.flatMap Node.preorder).filter fun c => c.kind == "call"
  | [] => by rw [callsAmong, List.flatMap_nil, List.map_nil, List.filter_nil]
  | n :: ns => by
      rw [callsAmong, List.map_append, map_snd_callsFrom, map_snd_callsAmong, List.flatMap_cons,
        List.filter_append]

end

/-! ## Single and nested statements -/

theorem aliasOfItem?_of_isMark (chain : List Symbol) {n : Node} (h : n.isMark = true) :
    ctx.aliasOfItem? chain n = none := by
  have hkind : (n.kind == "with_item") = false :=
    beq_eq_false_iff_ne.mpr (Node.kind_ne_of_isMark h (by decide))
  unfold aliasOfItem?
  rw [hkind]
  rfl

section Statements

variable {isAsync : Bool} {items : List Node} {body w : Node}

theorem aliasesOf_isClause {clause : Node} (h : IsClause items clause) (chain : List Symbol) :
    clause.contents.filterMap (ctx.aliasOfItem? chain) =
      (items.filter Node.isContent).filterMap (ctx.aliasOfItem? chain) := by
  rw [← h.parts, Node.parts, Node.contents, List.filterMap_filter, List.filterMap_filter,
    List.filterMap_filter]
  refine List.filterMap_congr fun c _ => ?_
  cases hmark : c.isMark with
  | false => simp
  | true => simp [ctx.aliasOfItem?_of_isMark chain hmark]

theorem aliasesOf_isWith (h : IsWith isAsync items body w) (chain : List Symbol) :
    ctx.aliasesOf chain w = ctx.boundBy chain items := by
  obtain ⟨clause, hclause, hparts⟩ := h.parts
  have hclauses : (w.contents.filter fun c => c.kind == "with_clause") = [clause] := by
    have hmark : ∀ c : Node, c.isMark = true → (c.kind == "with_clause" && c.isContent) = false := by
      intro c hc
      rw [beq_eq_false_iff_ne.mpr (Node.kind_ne_of_isMark hc (by decide)), Bool.false_and]
    rw [Node.contents, List.filter_filter, ← Node.filter_parts hmark, hparts]
    simp [Node.isContent, hclause.kind, hclause.isNamed, h.bodyKind]
  rw [aliasesOf, hclauses, boundBy, List.flatMap_cons, List.flatMap_nil, List.append_nil,
    ctx.aliasesOf_isClause hclause]

theorem callsAmong_parts (σ : Surroundings) (p n : Node) :
    ctx.callsAmong σ p n.children = ctx.callsAmong σ p n.parts := by
  refine Node.parts_induction (P := fun ns ms => ctx.callsAmong σ p ns = ctx.callsAmong σ p ms)
    rfl (fun c ns ms ih => ?_) (fun c ns ms hmark ih => ?_) n
  · rw [callsAmong, callsAmong, ih]
  · rw [callsAmong, ctx.callsFrom_of_kind _ (Node.kind_ne_of_isMark hmark (by decide)),
      Node.children_of_isMark hmark, callsAmong, List.nil_append, ih]

theorem callsAmong_of_kind (σ : Surroundings) {p : Node} (hplain : isPlainDefinition p.kind = false)
    (hwith : p.kind ≠ "with_statement") (ns : List Node) :
    ctx.callsAmong σ p ns = ns.flatMap (ctx.callsFrom { σ with above := p :: σ.above }) := by
  rw [callsAmong_eq_flatMap]
  refine List.flatMap_congr fun n _ => ?_
  rw [ctx.enter_of_kind σ n hplain hwith]

/-- The items are read with what holds above the statement, the body with the names of the items. -/
theorem callsFrom_isWith (h : IsWith isAsync items body w) (σ : Surroundings) :
    ∃ τ β : Surroundings, τ.Opens isAsync σ.scope σ.aliases ∧
      β.Opens isAsync σ.scope (ctx.boundBy (ctx.index.scopeChain σ.scope) items ++ σ.aliases) ∧
      ctx.callsFrom σ w = items.flatMap (ctx.callsFrom τ) ++ ctx.callsFrom β body := by
  obtain ⟨clause, hclause, hparts⟩ := h.parts
  have hbody := ctx.enter_withBody (s := σ) h.kind h.isBodyOf
  have hitems : ctx.enter σ w clause = { σ with above := w :: σ.above } := by
    refine ctx.enter_elsewhere (fun hdef => ?_) fun _ => ?_
    · rw [h.kind] at hdef
      exact absurd hdef (by decide)
    · rw [Node.isBodyOf, hclause.kind]
      simp
  have hopen : opensAsync (w :: σ.above) = isAsync := by
    rw [opensAsync_cons, Node.isContextPart, h.kind, h.async]
    simp
  have hcalls : ctx.callsFrom { σ with above := w :: σ.above } clause =
      items.flatMap (ctx.callsFrom { σ with above := clause :: w :: σ.above }) := by
    rw [ctx.callsFrom_of_kind _ (by rw [hclause.kind]; decide), callsAmong_parts, hclause.parts,
      ctx.callsAmong_of_kind _ (by rw [hclause.kind]; decide) (by rw [hclause.kind]; decide)]
  refine ⟨{ σ with above := clause :: w :: σ.above }, ctx.enter σ w body, ⟨rfl, rfl, ?_, ?_⟩,
    ⟨?_, ?_, ?_, ?_⟩, ?_⟩
  · rw [isAsyncUse_cons, hclause.kind]
    rfl
  · rw [opensAsync_cons, Node.isContextPart, hclause.kind]
    exact hopen
  · rw [hbody]
  · rw [hbody, ctx.aliasesOf_isWith h]
  · rw [hbody, isAsyncUse_cons, h.kind]
    rfl
  · rw [hbody]
    exact hopen
  · rw [ctx.callsFrom_of_kind _ (by rw [h.kind]; decide), callsAmong_parts, hparts, callsAmong,
      callsAmong, callsAmong, List.append_nil, hitems, hcalls]

theorem itemCalls_cons {earlier : List Node} {scope : Option Symbol} {aliases : Aliases}
    {τ τ' : Surroundings} (hτ : τ.Opens isAsync scope aliases)
    (hτ' : τ'.Opens isAsync scope (ctx.boundBy (ctx.index.scopeChain scope) earlier ++ aliases))
    (item : Node) {calls calls' : List (CallSite × Node)}
    (hrest : ItemCalls ctx τ (earlier ++ [item]) items calls calls') :
    ItemCalls ctx τ earlier (item :: items) (ctx.callsFrom τ item ++ calls)
      (ctx.callsFrom τ' item ++ calls') := by
  refine .cons rfl (ctx.map_snd_callsFrom τ item) ?_ hrest
  rw [hτ.scope_eq]
  exact ctx.callsFrom_inserted (hτ.inserted hτ') item

theorem callsFrom_nests (h : Nests isAsync body items w) {earlier : List Node} {aliases : Aliases}
    {σ τ β : Surroundings}
    (hσ : σ.aliases = ctx.boundBy (ctx.index.scopeChain σ.scope) earlier ++ aliases)
    (hτ : τ.Opens isAsync σ.scope aliases)
    (hβ : β.Opens isAsync σ.scope
      (ctx.boundBy (ctx.index.scopeChain σ.scope) (earlier ++ items) ++ aliases)) :
    ∃ calls, ctx.callsFrom σ w = calls ++ ctx.callsFrom β body ∧
      ItemCalls ctx τ earlier items (items.flatMap (ctx.callsFrom τ)) calls := by
  -- On the way down `earlier` grows by the item of each statement; what holds at the items of the single
  -- statement, and at its body, stays as it is.
  induction h generalizing earlier σ with
  | @last item w h =>
      obtain ⟨τ', β', hτ', hβ', hcalls⟩ := ctx.callsFrom_isWith h σ
      rw [hσ] at hτ' hβ'
      rw [boundBy_append, List.append_assoc] at hβ
      refine ⟨_, ?_, ctx.itemCalls_cons hτ hτ' item .nil⟩
      rw [hcalls, ctx.callsFrom_alike (hβ.alike hβ'), List.flatMap_cons, List.flatMap_nil]
  | @cons item w block inner items h present children content rest ih =>
      obtain ⟨τ', β', hτ', hβ', hcalls⟩ := ctx.callsFrom_isWith h σ
      have hblock : ctx.callsFrom β' block =
          ctx.callsFrom { β' with above := block :: β'.above } inner := by
        rw [ctx.callsFrom_of_kind _ (by rw [h.bodyKind]; decide), children,
          ctx.callsAmong_of_kind _ (by rw [h.bodyKind]; decide) (by rw [h.bodyKind]; decide),
          List.flatMap_cons, List.flatMap_nil, List.append_nil]
      rw [hσ] at hτ' hβ'
      have haliases : β'.aliases =
          ctx.boundBy (ctx.index.scopeChain σ.scope) (earlier ++ [item]) ++ aliases := by
        rw [hβ'.aliases_eq, boundBy_append, List.append_assoc]
      obtain ⟨calls, hrest, hitems⟩ := @ih (earlier ++ [item])
        { β' with above := block :: β'.above } (by rw [haliases, hβ'.scope_eq])
        (by rw [hβ'.scope_eq]; exact hτ)
        (by rw [hβ'.scope_eq, List.append_assoc]; exact hβ)
      refine ⟨_, ?_, ctx.itemCalls_cons hτ hτ' item hitems⟩
      rw [hcalls, hblock, hrest, List.flatMap_cons, List.flatMap_nil, List.append_nil,
        List.append_assoc]

/-- The calls of the items of a single statement and of nested ones, and those of the body. -/
theorem callsFrom_isWith_nests {w' : Node} (h : IsWith isAsync items body w)
    (h' : Nests isAsync body items w') {σ σ' : Surroundings} (hscope : σ'.scope = σ.scope)
    (haliases : σ'.aliases = σ.aliases) :
    ∃ τ calls calls' inBody, ItemCalls ctx τ [] items calls calls' ∧
      inBody.map (·.2) = (body.preorder.filter fun n => n.kind == "call") ∧
      ctx.callsFrom σ w = calls ++ inBody ∧ ctx.callsFrom σ' w' = calls' ++ inBody := by
  obtain ⟨τ, β, hτ, hβ, hcalls⟩ := ctx.callsFrom_isWith h σ
  rw [← hscope] at hτ hβ
  have hnone : σ'.aliases = ctx.boundBy (ctx.index.scopeChain σ'.scope) [] ++ σ.aliases := haliases
  obtain ⟨calls', hcalls', hitems⟩ := ctx.callsFrom_nests h' hnone hτ hβ
  exact ⟨τ, _, calls', _, hitems, ctx.map_snd_callsFrom β body, hcalls, hcalls'⟩

end Statements

end CallContext

end SourceFacts
