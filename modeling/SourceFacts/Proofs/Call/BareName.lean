import SourceFacts.Proofs.Call.LocalImport
import SourceFacts.Proofs.Call.Priority
import SourceFacts.Proofs.File.References

/-!
# Names without a receiver

A plain name that is called is looked for from the inside out: in the scope of the call, in what is
around it and is no class, in the module. Only functions and classes are found, and the innermost place
decides. What is around a scope is found by qualified name, so the body of a class is looked into where
something that is no class has taken over its name.
-/

namespace SourceFacts

/-! ## The places -/

/-- The qualified names under which a name is looked for from a chain of scopes, with `none` for the
module. -/
def lookupPlaces : List Symbol → List (Option String)
  | [] => [none]
  | s :: outer =>
    (s :: outer.filter fun t => decide (t.kind ≠ .cls)).map (fun t => some t.qualifiedName) ++ [none]

/-- The last definition of a name in a place is a function or a class. -/
def IsVisibleIn (symbols : List Symbol) (place : Option String) (name : String) (t : Symbol) : Prop :=
  SymbolIndex.IsLastIn symbols place name t ∧ (t.kind = .function ∨ t.kind = .cls)

/-- A class is looked into from the outside only if its qualified name stands for something else. -/
theorem of_mem_lookupPlaces {symbols : List Symbol} {scope : Option Symbol} {chain : List Symbol}
    (h : (SymbolIndex.ofSymbols symbols).Outward scope chain) {name : String}
    (hname : some name ∈ lookupPlaces chain) :
    (∃ s, scope = some s ∧ s.qualifiedName = name) ∨
      ∃ t, (SymbolIndex.ofSymbols symbols).get? (some name) = some t ∧ t.kind ≠ .cls := by
  cases h with
  | module => exact absurd hname (by simp [lookupPlaces])
  | @inside s outer houter =>
      simp only [lookupPlaces, List.map_cons, List.cons_append, List.mem_cons, List.mem_append, List.mem_map,
        List.mem_filter, List.not_mem_nil, or_false, reduceCtorEq, Option.some.injEq,
        decide_eq_true_eq] at hname
      rcases hname with rfl | ⟨t, ⟨ht, hkind⟩, rfl⟩
      · exact Or.inl ⟨s, rfl, rfl⟩
      · refine Or.inr ⟨t, ?_, hkind⟩
        rcases houter.get?_of_mem ht with hparent | hself
        · rw [← (SymbolIndex.mem_of_get? hparent).2]
          exact hparent
        · exact hself

/-! ## The second rule -/

namespace CallContext

variable {ctx : CallContext} {symbols : List Symbol} {bound : Import → Prop} {chain : List Symbol}
  {name : String}

/-- What is looked for in one place. -/
def visibleAt? (ctx : CallContext) (name : String) (place : Option String) : Option Symbol :=
  (ctx.index.child? place name).filter fun s => decide (s.kind ≠ .method)

theorem visibleAt?_eq_some_iff (hctx : ctx.Backed symbols bound) {place : Option String} {t : Symbol} :
    ctx.visibleAt? name place = some t ↔ IsVisibleIn symbols place name t := by
  have hkind : t.kind ≠ .method ↔ t.kind = .function ∨ t.kind = .cls := by
    cases t.kind <;> simp
  rw [visibleAt?, hctx.index_eq, Option.filter_eq_some_iff, SymbolIndex.child?_eq_some_iff,
    decide_eq_true_eq, hkind, IsVisibleIn]

theorem visibleAt?_eq_none_iff (hctx : ctx.Backed symbols bound) {place : Option String} :
    ctx.visibleAt? name place = none ↔ ∀ t, ¬ IsVisibleIn symbols place name t := by
  simp only [Option.eq_none_iff_forall_ne_some, ne_eq, visibleAt?_eq_some_iff hctx]

/-- There are no methods in the module, so that it is one more place like the others. -/
theorem visibleAt?_none (hctx : ctx.Backed symbols bound) :
    ctx.visibleAt? name none = ctx.index.child? none name := by
  unfold visibleAt?
  cases hchild : ctx.index.child? none name with
  | none => rfl
  | some s =>
      rw [hctx.index_eq] at hchild
      obtain ⟨hmem, hparent⟩ := SymbolIndex.mem_of_child? hchild
      simp [hctx.method_nested s hmem hparent]

theorem visible?_eq (hctx : ctx.Backed symbols bound) :
    ctx.visible? name chain = (lookupPlaces chain).findSome? (ctx.visibleAt? name) := by
  have hplace : ctx.visibleIn? name = ctx.visibleAt? name ∘ fun s => some s.qualifiedName := rfl
  unfold visible?
  rw [← visibleAt?_none hctx, Option.orElse_eq_orElse, Option.orElse_eq_or, hplace]
  cases chain with
  | nil => simp [lookupPlaces]
  | cons s outer =>
      simp only [lookupPlaces, List.head?_cons, Option.toList_some, List.tail_cons,
        List.findSome?_append, List.findSome?_map, List.findSome?_singleton, List.singleton_append]

/-- The innermost place that has the name decides. -/
theorem visible?_eq_some_iff (hctx : ctx.Backed symbols bound) {t : Symbol} :
    ctx.visible? name chain = some t ↔
      ∃ before place after, lookupPlaces chain = before ++ place :: after ∧
        IsVisibleIn symbols place name t ∧
        ∀ p ∈ before, ∀ u, ¬ IsVisibleIn symbols p name u := by
  rw [visible?_eq hctx, List.findSome?_eq_some_iff]
  simp only [visibleAt?_eq_some_iff hctx, visibleAt?_eq_none_iff hctx]

theorem exists_visible?_iff (hctx : ctx.Backed symbols bound) :
    (∃ t, ctx.visible? name chain = some t) ↔
      ∃ place ∈ lookupPlaces chain, ∃ t, IsVisibleIn symbols place name t := by
  simp only [visible?_eq hctx, ← Option.isSome_iff_exists, List.findSome?_isSome_iff,
    ← visibleAt?_eq_some_iff hctx]

variable {s : Surroundings} {call f : Node}

theorem localRule?_of_visible? {t : Symbol} (hf : call.child? "function" = some f)
    (hname : f.kind = "identifier")
    (ht : ctx.visible? (ctx.src.text f) (ctx.index.scopeChain s.scope) = some t) :
    ctx.localRule? s call = some { kind := .sameFile, targetSymbol := some t.qualifiedName } := by
  have hself : ctx.resolveSelf? (ctx.index.scopeChain s.scope) f = none := by
    simp [resolveSelf?, hname]
  have hsame : ctx.resolveSameFile? (ctx.index.scopeChain s.scope) f =
      some { kind := .sameFile, targetSymbol := some t.qualifiedName } := by
    simp [resolveSameFile?, hname, ht]
  exact localRule?_eq_some_iff.mpr ⟨f, hf, Or.inr ⟨hself, hsame⟩⟩

theorem kind_sameFile_iff (hctx : ctx.Backed symbols bound) :
    (ctx.callSite s call).kind = .sameFile ↔
      ∃ f, call.child? "function" = some f ∧ f.kind = "identifier" ∧
        ∃ place ∈ lookupPlaces (ctx.index.scopeChain s.scope),
          ∃ t, IsVisibleIn symbols place (ctx.src.text f) t := by
  simp only [kind_iff_localRule (Or.inr rfl), ← exists_visible?_iff hctx]
  constructor
  · rintro ⟨r, hrule, hkind⟩
    obtain ⟨f, hf, hself | ⟨_, hsame⟩⟩ := localRule?_eq_some_iff.mp hrule
    · obtain ⟨_, _, _, _, _, rfl⟩ := resolveSelf?_eq_some hself
      exact absurd hkind (by simp)
    · unfold resolveSameFile? at hsame
      split at hsame
      · rename_i hname
        obtain ⟨t, ht, _⟩ := Option.map_eq_some_iff.mp hsame
        exact ⟨f, hf, beq_iff_eq.mp hname, t, ht⟩
      · exact absurd hsame (by simp)
  · rintro ⟨f, hf, hname, t, ht⟩
    exact ⟨_, localRule?_of_visible? hf hname ht, rfl⟩

end CallContext

/-- Plain names are looked for from the inside out. For every tree the calls are its call nodes in
pre-order, each with the scope that its ancestors give. A call is resolved to a definition of the file
under its plain name exactly if a function or a class is the last definition of that name in one of the
places: the scope itself, what is met outward from it and is no class, the module. The definition in the
first of these places is the target. A class other than the scope is one of the places only if something
that is no class is the last definition of its qualified name. -/
theorem bare_names_inside_out (faults : Faults) (file : String) (src : Source) (root : Node) :
    let ctx := fileContext faults file src root
    let symbols := fileSymbols faults file src root
    List.Forall₂ (fun place c => ∃ scope aliases chain,
        ctx.Surrounded place.1 place.2 scope aliases ∧ ctx.index.Outward scope chain ∧
        (c.1.kind = .sameFile ↔
          ∃ f, place.1.child? "function" = some f ∧ f.kind = "identifier" ∧
            ∃ p ∈ lookupPlaces chain, ∃ t, IsVisibleIn symbols p (src.text f) t) ∧
        (∀ f, place.1.child? "function" = some f → f.kind = "identifier" →
          ∀ before p after t, lookupPlaces chain = before ++ p :: after →
            IsVisibleIn symbols p (src.text f) t →
            (∀ q ∈ before, ∀ u, ¬ IsVisibleIn symbols q (src.text f) u) →
            c.1.targetModule = none ∧ c.1.targetSymbol = some t.qualifiedName) ∧
        ∀ cls ∈ symbols, cls.kind = .cls → some cls.qualifiedName ∈ lookupPlaces chain →
          (∃ s, scope = some s ∧ s.qualifiedName = cls.qualifiedName) ∨
            ∃ t, ctx.index.get? (some cls.qualifiedName) = some t ∧ t.kind ≠ .cls)
      ((root.visits []).filter fun place => place.1.kind == "call") (ctx.calls root) := by
  intro ctx symbols
  have hctx := fileContext_backed faults file src root
  refine (ctx.forall₂_surrounded_calls root).imp ?_
  rintro ⟨n, above⟩ c ⟨scope, aliases, hsurrounded, rfl⟩
  have houtward := outward_scopeChain hsurrounded
  refine ⟨scope, aliases, _, hsurrounded, houtward, CallContext.kind_sameFile_iff hctx, ?_, ?_⟩
  · intro f hf hname before p after t hplaces ht hbefore
    have hvisible := (CallContext.visible?_eq_some_iff hctx).mpr
      ⟨before, p, after, hplaces, ht, hbefore⟩
    exact CallContext.target_of_localRule (CallContext.localRule?_of_visible? hf hname hvisible)
  · intro cls _ _ hcls
    exact of_mem_lookupPlaces houtward hcls

/-! ## A class whose name is taken over -/

/-- The tree of a class with a class and a method that calls the inner one by its plain name. -/
def callingClass : Node :=
  .node { kind := "class_definition", start := 0, stop := 47 }
    [token "class" 0 5,
     .node { kind := "identifier", start := 6, stop := 7, field := some "name" } [],
     token ":" 7 8,
     .node { kind := "block", start := 13, stop := 47, field := some "body" }
      [.node { kind := "class_definition", start := 13, stop := 26 }
        [token "class" 13 18,
         .node { kind := "identifier", start := 19, stop := 20, field := some "name" } [],
         token ":" 20 21,
         .node { kind := "block", start := 22, stop := 26, field := some "body" }
          [.node { kind := "pass_statement", start := 22, stop := 26 } []]],
       .node { kind := "function_definition", start := 31, stop := 47 }
        [token "def" 31 34,
         .node { kind := "identifier", start := 35, stop := 36, field := some "name" } [],
         .node { kind := "parameters", start := 36, stop := 42, field := some "parameters" }
          [token "(" 36 37, .node { kind := "identifier", start := 37, stop := 41 } [],
           token ")" 41 42],
         token ":" 42 43,
         .node { kind := "block", start := 44, stop := 47, field := some "body" }
          [.node { kind := "expression_statement", start := 44, stop := 47 }
            [.node { kind := "call", start := 44, stop := 47 }
              [.node { kind := "identifier", start := 44, stop := 45, field := some "function" } [],
               .node { kind := "argument_list", start := 45, stop := 47, field := some "arguments" }
                [token "(" 45 46, token ")" 46 47]]]]]]]

/-- The tree of such a class and of a function. -/
def classAndFunction : Node :=
  .node { kind := "module", start := 0, stop := 62 }
    [callingClass,
     .node { kind := "function_definition", start := 48, stop := 61 }
      [token "def" 48 51,
       .node { kind := "identifier", start := 52, stop := 53, field := some "name" } [],
       .node { kind := "parameters", start := 53, stop := 55, field := some "parameters" }
        [token "(" 53 54, token ")" 54 55],
       token ":" 55 56,
       .node { kind := "block", start := 57, stop := 61, field := some "body" }
        [.node { kind := "pass_statement", start := 57, stop := 61 } []]]]

/-- The body of the class around a method is not looked into. -/
example :
    let src := plainSource "class A:\n    class B: pass\n    def m(self): B()\ndef C(): pass\n"
    ((fileContext Faults.none "m.py" src classAndFunction).calls classAndFunction).map
      (fun c => (c.1.caller, c.1.callee, c.1.kind, c.1.targetSymbol)) =
        [("A.m", "B", .unresolved, none)] := by
  decide +kernel

/-- It is looked into if the function after it has the name of the class. -/
theorem redefinition_opens_class :
    let src := plainSource "class A:\n    class B: pass\n    def m(self): B()\ndef A(): pass\n"
    let ctx := fileContext Faults.none "m.py" src classAndFunction
    (fileSymbols Faults.none "m.py" src classAndFunction).map
      (fun s => (s.qualifiedName, s.kind, s.parent)) =
        [("A", .cls, none), ("A.B", .cls, some "A"), ("A.m", .method, some "A"),
          ("A", .function, none)] ∧
      ((classAndFunction.visits []).filter fun place => place.1.kind == "call").map
        (fun place => place.2.map fun n => (n.kind, n.start)) =
          [[("expression_statement", 44), ("block", 44), ("function_definition", 31), ("block", 13),
            ("class_definition", 0), ("module", 0)]] ∧
      (ctx.calls classAndFunction).map
        (fun c => (c.1.caller, c.1.callee, c.1.kind, c.1.targetSymbol)) =
          [("A.m", "B", .sameFile, some "A.B")] := by
  intro src ctx
  exact ⟨by decide +kernel, by decide +kernel, by decide +kernel⟩

end SourceFacts
