import SourceFacts.Proofs.Call.Priority
import SourceFacts.Proofs.Call.Scope

/-!
# Calls on the object

A method of the object is called through the nearest method around the call, where only functions may
stand in between. The receiver is the object of that method, which no function in between takes as a
parameter of its own, or it is a call of `super`, and then the class of the method is left out.
-/

namespace SourceFacts

/-! ## The shapes of the calls -/

/-- The call applies a member of a receiver. -/
def Node.AppliesMember (call receiver member : Node) : Prop :=
  ∃ f, call.child? "function" = some f ∧ f.kind = "attribute" ∧
    f.child? "object" = some receiver ∧ f.child? "attribute" = some member

theorem Node.appliesMember_iff {call f receiver member : Node}
    (hf : call.child? "function" = some f) :
    call.AppliesMember receiver member ↔
      f.kind = "attribute" ∧ f.child? "object" = some receiver ∧
        f.child? "attribute" = some member := by
  simp only [AppliesMember, hf, Option.some.injEq, exists_eq_left']

/-- The node is a call of the plain name `super`, with whatever arguments. -/
def Node.IsSuper (src : Source) (n : Node) : Prop :=
  n.kind = "call" ∧ ∃ f, n.child? "function" = some f ∧
    (f.kind = "identifier" ∨ f.kind = "dotted_name") ∧ src.text f = "super"

/-- A chain of attributes spells a dot, so a name without one is spelled by a plain name. -/
theorem dottedName?_eq_super_iff {src : Source} {f : Node} :
    dottedName? src f = some "super" ↔
      (f.kind = "identifier" ∨ f.kind = "dotted_name") ∧ src.text f = "super" := by
  obtain ⟨l, cs⟩ := f
  rw [dottedName?]
  by_cases hplain : l.kind = "identifier" ∨ l.kind = "dotted_name"
  · simp [hplain, Node.kind]
  · have hnot : ¬ (l.kind == "identifier" || l.kind == "dotted_name") = true := by simpa using hplain
    rw [if_neg hnot]
    refine iff_of_false ?_ fun h => hplain h.1
    intro h
    split at h
    · split at h
      · have hdot := congrArg String.toList (Option.some.inj h)
        simp only [String.toList_append] at hdot
        have hmem : '.' ∈ "super".toList := by
          rw [← hdot]
          simp
        exact absurd hmem (by decide)
      · exact absurd h (by simp)
    · exact absurd h (by simp)

theorem Node.isSuper_iff {src : Source} {n : Node} :
    n.IsSuper src ↔ n.kind = "call" ∧ n.callee? src = some "super" := by
  simp only [IsSuper, Node.callee?, Option.bind_eq_some_iff, dottedName?_eq_super_iff]

/-! ## The nearest method -/

/-- On the way outward from a scope the first symbol that is no function is the method. The functions
that are passed are given, the innermost first. -/
inductive SymbolIndex.NearestMethod (index : SymbolIndex) :
    Option Symbol → List Symbol → Symbol → Prop where
  | here {m : Symbol} (hm : m.kind = .method) : NearestMethod index (some m) [] m
  | through {g m : Symbol} {passed : List Symbol} (hg : g.kind = .function)
      (h : NearestMethod index (index.get? g.parent) passed m) :
      NearestMethod index (some g) (g :: passed) m

/-- The method has an object, and it is the receiver if there is one. -/
def Symbol.HasObject (m : Symbol) : Option String → Prop
  | none => m.instanceParam ≠ none
  | some r => m.instanceParam = some r

theorem SymbolIndex.nearestMethod_of_method {index : SymbolIndex} {s m : Symbol}
    {passed : List Symbol} (hs : s.kind = .method) :
    index.NearestMethod (some s) passed m ↔ passed = [] ∧ m = s := by
  constructor
  · intro h
    cases h with
    | here _ => exact ⟨rfl, rfl⟩
    | through hg _ => exact absurd (hs.symm.trans hg) (by simp)
  · rintro ⟨rfl, rfl⟩
    exact .here hs

theorem enclosingMethod?_of_method {receiver : Option String} {shadowed : List String} {s m : Symbol}
    {outer : List Symbol} (hs : s.kind = .method) :
    enclosingMethod? receiver shadowed (s :: outer) = some m ↔
      m = s ∧ m.HasObject receiver ∧ ∀ r, receiver = some r → r ∉ shadowed := by
  unfold enclosingMethod?
  simp only [hs]
  cases hparam : s.instanceParam with
  | none =>
      refine iff_of_false (by simp) ?_
      rintro ⟨rfl, hobject, _⟩
      cases receiver <;> simp [Symbol.HasObject, hparam] at hobject
  | some p =>
      cases receiver with
      | none =>
          constructor
          · intro h
            cases h
            exact ⟨rfl, by simp [Symbol.HasObject, hparam], by simp⟩
          · rintro ⟨rfl, _⟩
            rfl
      | some r =>
          rw [Option.ite_none_right_eq_some]
          constructor
          · rintro ⟨⟨rfl, hfree⟩, h⟩
            cases h
            exact ⟨rfl, hparam, by simpa using hfree⟩
          · rintro ⟨rfl, hobject, hfree⟩
            exact ⟨⟨Option.some.inj (hparam.symm.trans hobject), hfree r rfl⟩, rfl⟩

/-- The method that is found is the nearest one, and the functions on the way there leave its object
alone. -/
theorem enclosingMethod?_eq_some_iff {index : SymbolIndex} {scope : Option Symbol}
    {chain : List Symbol} (h : index.Outward scope chain) {receiver : Option String}
    {shadowed : List String} {m : Symbol} :
    enclosingMethod? receiver shadowed chain = some m ↔
      ∃ passed, index.NearestMethod scope passed m ∧ m.HasObject receiver ∧
        ∀ r, receiver = some r → r ∉ shadowed ∧ ∀ g ∈ passed, r ∉ g.parameters := by
  induction h generalizing shadowed with
  | module =>
      refine iff_of_false (by simp [enclosingMethod?]) ?_
      rintro ⟨_, hnearest, _⟩
      cases hnearest
  | @inside s outer _ ih =>
      cases hkind : s.kind with
      | cls =>
          refine iff_of_false (by simp [enclosingMethod?, hkind]) ?_
          rintro ⟨_, hnearest, _⟩
          cases hnearest with
          | here hm => exact absurd (hkind.symm.trans hm) (by simp)
          | through hg _ => exact absurd (hkind.symm.trans hg) (by simp)
      | method =>
          rw [enclosingMethod?_of_method hkind]
          simp only [SymbolIndex.nearestMethod_of_method hkind]
          constructor
          · rintro ⟨rfl, hobject, hfree⟩
            exact ⟨[], ⟨rfl, rfl⟩, hobject, fun r hr => ⟨hfree r hr, by simp⟩⟩
          · rintro ⟨_, ⟨_, rfl⟩, hobject, hfree⟩
            exact ⟨rfl, hobject, fun r hr => (hfree r hr).1⟩
      | function =>
          unfold enclosingMethod?
          simp only [hkind]
          rw [ih]
          constructor
          · rintro ⟨passed, hnearest, hobject, hfree⟩
            refine ⟨s :: passed, .through hkind hnearest, hobject, fun r hr => ?_⟩
            obtain ⟨hshadowed, hpassed⟩ := hfree r hr
            rw [List.mem_append, not_or] at hshadowed
            exact ⟨hshadowed.1, List.forall_mem_cons.mpr ⟨hshadowed.2, hpassed⟩⟩
          · rintro ⟨_, hnearest, hobject, hfree⟩
            cases hnearest with
            | here hm => exact absurd (hkind.symm.trans hm) (by simp)
            | @through _ _ passed _ hnearest =>
                refine ⟨passed, hnearest, hobject, fun r hr => ?_⟩
                obtain ⟨hshadowed, hpassed⟩ := hfree r hr
                obtain ⟨hs, hpassed⟩ := List.forall_mem_cons.mp hpassed
                exact ⟨by simp [hshadowed, hs], hpassed⟩

/-! ## The first rule -/

namespace CallContext

variable {ctx : CallContext}

theorem receiverMethod?_eq_some_iff {chain : List Symbol} {receiver : Node} {method : Symbol}
    {counts : Bool} :
    ctx.receiverMethod? chain receiver = some (method, counts) ↔
      (receiver.kind = "identifier" ∧ counts = true ∧
        enclosingMethod? (some (ctx.src.text receiver)) [] chain = some method) ∨
      (receiver.IsSuper ctx.src ∧ counts = false ∧
        enclosingMethod? none [] chain = some method) := by
  unfold receiverMethod?
  rw [Node.isSuper_iff]
  by_cases hname : receiver.kind = "identifier"
  · rw [if_pos (beq_iff_eq.mpr hname), Option.map_eq_some_iff]
    constructor
    · rintro ⟨m, hm, heq⟩
      cases heq
      exact Or.inl ⟨hname, rfl, hm⟩
    · rintro (⟨_, rfl, hm⟩ | ⟨⟨hcall, _⟩, _⟩)
      · exact ⟨method, hm, rfl⟩
      · exact absurd (hname.symm.trans hcall) (by decide)
  · rw [if_neg (mt beq_iff_eq.mp hname), Option.ite_none_right_eq_some, Bool.and_eq_true, beq_iff_eq,
      beq_iff_eq, Option.map_eq_some_iff]
    constructor
    · rintro ⟨hsuper, m, hm, heq⟩
      cases heq
      exact Or.inr ⟨hsuper, rfl, hm⟩
    · rintro (⟨h, _⟩ | ⟨hsuper, rfl, hm⟩)
      · exact absurd h hname
      · exact ⟨hsuper, method, hm, rfl⟩

theorem resolveSelf?_parts {chain : List Symbol} {f : Node} {r : Resolution} :
    ctx.resolveSelf? chain f = some r ↔
      ∃ receiver member method counts cls target, f.kind = "attribute" ∧
        f.child? "object" = some receiver ∧ f.child? "attribute" = some member ∧
        ctx.receiverMethod? chain receiver = some (method, counts) ∧
        ctx.index.get? method.parent = some cls ∧
        ctx.index.findMethod? cls (ctx.src.text member) counts = some target ∧
        r = { kind := .selfMethod, targetSymbol := some target.qualifiedName } := by
  unfold resolveSelf?
  by_cases hkind : f.kind = "attribute"
  · simp only [hkind, beq_self_eq_true, if_true, bind, Option.bind_eq_some_iff, true_and, pure,
      Option.some.injEq, Prod.exists]
    constructor
    · rintro ⟨receiver, hreceiver, member, hmember, method, counts, hmethod, cls, hcls, target,
        htarget, hr⟩
      exact ⟨receiver, member, method, counts, cls, target, hreceiver, hmember, hmethod, hcls,
        htarget, hr.symm⟩
    · rintro ⟨receiver, member, method, counts, cls, target, hreceiver, hmember, hmethod, hcls,
        htarget, hr⟩
      exact ⟨receiver, hreceiver, member, hmember, method, counts, hmethod, cls, hcls, target,
        htarget, hr.symm⟩
  · simp [hkind]

variable (ctx) in
/-- From a scope the call goes to a method of the object. -/
inductive SelfCall (scope : Option Symbol) (call : Node) : Symbol → Prop where
  /-- The receiver is the object of the nearest method, and no function in between has a parameter of
  that name. -/
  | object {receiver member : Node} {passed : List Symbol} {m cls target : Symbol}
      (hcall : call.AppliesMember receiver member) (hreceiver : receiver.kind = "identifier")
      (hm : ctx.index.NearestMethod scope passed m)
      (hobject : m.instanceParam = some (ctx.src.text receiver))
      (hfree : ∀ g ∈ passed, ctx.src.text receiver ∉ g.parameters)
      (hcls : ctx.index.get? m.parent = some cls)
      (htarget : ctx.index.findMethod? cls (ctx.src.text member) true = some target) :
      SelfCall scope call target
  /-- The receiver is a call of `super`: the nearest method has some object, and its class does not
  count. -/
  | super {receiver member : Node} {passed : List Symbol} {m cls target : Symbol}
      (hcall : call.AppliesMember receiver member) (hreceiver : receiver.IsSuper ctx.src)
      (hm : ctx.index.NearestMethod scope passed m) (hobject : m.instanceParam ≠ none)
      (hcls : ctx.index.get? m.parent = some cls)
      (htarget : ctx.index.findMethod? cls (ctx.src.text member) false = some target) :
      SelfCall scope call target

/-- The first rule resolves exactly the calls that go to a method of the object. -/
theorem resolveSelf?_eq_some_iff {scope : Option Symbol} {chain : List Symbol} {call f : Node}
    {r : Resolution} (h : ctx.index.Outward scope chain) (hf : call.child? "function" = some f) :
    ctx.resolveSelf? chain f = some r ↔
      ∃ target, ctx.SelfCall scope call target ∧
        r = { kind := .selfMethod, targetSymbol := some target.qualifiedName } := by
  rw [resolveSelf?_parts]
  constructor
  · rintro ⟨receiver, member, m, counts, cls, target, hkind, hobject, hmember, hm, hcls, htarget, rfl⟩
    have hcall := (Node.appliesMember_iff hf).mpr ⟨hkind, hobject, hmember⟩
    refine ⟨target, ?_, rfl⟩
    rcases receiverMethod?_eq_some_iff.mp hm with ⟨hname, rfl, hfound⟩ | ⟨hsuper, rfl, hfound⟩
    · obtain ⟨passed, hnearest, hparam, hfree⟩ := (enclosingMethod?_eq_some_iff h).mp hfound
      exact .object hcall hname hnearest hparam (hfree _ rfl).2 hcls htarget
    · obtain ⟨passed, hnearest, hparam, _⟩ := (enclosingMethod?_eq_some_iff h).mp hfound
      exact .super hcall hsuper hnearest hparam hcls htarget
  · rintro ⟨target, hself, rfl⟩
    cases hself with
    | @object receiver member passed m cls _ hcall hname hnearest hparam hfree hcls htarget =>
        obtain ⟨hkind, hobject, hmember⟩ := (Node.appliesMember_iff hf).mp hcall
        have hfound : enclosingMethod? (some (ctx.src.text receiver)) [] chain = some m := by
          refine (enclosingMethod?_eq_some_iff h).mpr ⟨passed, hnearest, hparam, fun r hr => ?_⟩
          cases hr
          exact ⟨List.not_mem_nil, hfree⟩
        exact ⟨receiver, member, m, true, cls, target, hkind, hobject, hmember,
          receiverMethod?_eq_some_iff.mpr (Or.inl ⟨hname, rfl, hfound⟩), hcls, htarget, rfl⟩
    | @super receiver member passed m cls _ hcall hsuper hnearest hparam hcls htarget =>
        obtain ⟨hkind, hobject, hmember⟩ := (Node.appliesMember_iff hf).mp hcall
        have hfound : enclosingMethod? none [] chain = some m :=
          (enclosingMethod?_eq_some_iff h).mpr ⟨passed, hnearest, hparam, by simp⟩
        exact ⟨receiver, member, m, false, cls, target, hkind, hobject, hmember,
          receiverMethod?_eq_some_iff.mpr (Or.inr ⟨hsuper, rfl, hfound⟩), hcls, htarget, rfl⟩

variable {s : Surroundings} {call : Node}

theorem localRule?_of_selfCall {target : Symbol}
    (h : ctx.index.Outward s.scope (ctx.index.scopeChain s.scope))
    (hself : ctx.SelfCall s.scope call target) :
    ctx.localRule? s call =
      some { kind := .selfMethod, targetSymbol := some target.qualifiedName } := by
  obtain ⟨f, hf⟩ : ∃ f, call.child? "function" = some f := by
    cases hself with
    | object hcall => exact ⟨_, hcall.choose_spec.1⟩
    | super hcall => exact ⟨_, hcall.choose_spec.1⟩
  exact localRule?_eq_some_iff.mpr
    ⟨f, hf, Or.inl ((resolveSelf?_eq_some_iff h hf).mpr ⟨target, hself, rfl⟩)⟩

theorem kind_selfMethod_iff (h : ctx.index.Outward s.scope (ctx.index.scopeChain s.scope)) :
    (ctx.callSite s call).kind = .selfMethod ↔ ∃ target, ctx.SelfCall s.scope call target := by
  rw [kind_iff_localRule (Or.inl rfl)]
  constructor
  · rintro ⟨r, hrule, hkind⟩
    obtain ⟨f, hf, hself | ⟨_, hsame⟩⟩ := localRule?_eq_some_iff.mp hrule
    · obtain ⟨target, htarget, _⟩ := (resolveSelf?_eq_some_iff h hf).mp hself
      exact ⟨target, htarget⟩
    · obtain ⟨_, _, _, rfl⟩ := resolveSameFile?_eq_some hsame
      exact absurd hkind (by simp)
  · rintro ⟨target, hself⟩
    exact ⟨_, localRule?_of_selfCall h hself, rfl⟩

end CallContext

/-- A call goes to a method of the object exactly through the nearest method around it. For every tree
the calls are its call nodes in pre-order, each with the scope that its ancestors give. A call is
resolved to a method of the object exactly if its receiver is the object of the nearest method, not
hidden by a parameter of a function in between, or a call of `super`, and the class of the method or its
bases, without the class itself in the second case, have a method of that name; that one is the target. -/
theorem self_calls_through_nearest_method (faults : Faults) (file : String) (src : Source)
    (root : Node) :
    let ctx := fileContext faults file src root
    List.Forall₂ (fun place c => ∃ scope aliases, ctx.Surrounded place.1 place.2 scope aliases ∧
        (c.1.kind = .selfMethod ↔ ∃ target, ctx.SelfCall scope place.1 target) ∧
        ∀ target, ctx.SelfCall scope place.1 target →
          c.1.targetModule = none ∧ c.1.targetSymbol = some target.qualifiedName)
      ((root.visits []).filter fun place => place.1.kind == "call") (ctx.calls root) := by
  intro ctx
  refine (ctx.forall₂_surrounded_calls root).imp ?_
  rintro ⟨n, above⟩ c ⟨scope, aliases, hsurrounded, rfl⟩
  have houtward := outward_scopeChain hsurrounded
  refine ⟨scope, aliases, hsurrounded, CallContext.kind_selfMethod_iff houtward, ?_⟩
  intro target hself
  exact CallContext.target_of_localRule (CallContext.localRule?_of_selfCall houtward hself)

end SourceFacts
