import SourceFacts.Proofs.Call.LocalImport
import SourceFacts.Proofs.File.Replace

/-!
# Conditionals do not change scope

A statement that is put into a block of its own, under a conditional, defines, imports and calls what it
did. Only the documentation of the body around it, and whether that body only declares, can change.
-/

namespace SourceFacts

open Node (Replaces Exchange Passes)
open Definitions

namespace Node

/-- A conditional with the span of a statement, which is all that it holds, in a block. -/
def inConditional (role : Option String) (hasError blockHasError : Bool) (s : Node) : Node :=
  .node { kind := "if_statement", start := s.start, stop := s.stop, hasError }
    [.node { kind := "block", start := s.start, stop := s.stop, field := role
             hasError := blockHasError } [s]]

/-- The node is a parameter with a name. -/
def isParameter (n : Node) : Bool :=
  ["identifier", "default_parameter", "typed_default_parameter", "list_splat_pattern",
    "dictionary_splat_pattern"].contains n.kind ||
  (n.kind == "typed_parameter" && !n.contents.isEmpty)

/-- The label is that of a module or a block in which the node is a statement: if the block stands in the
field of the parameters or of the bases, under a definition or not, the node is no entry of such a
list. -/
structure IsStatementBelow (s : Node) (l : Label) : Prop where
  kind : l.kind = "module" ∨ l.kind = "block"
  parameter : l.field = some "parameters" → s.isParameter = false
  base : l.field = some "superclasses" → s.kind ≠ "keyword_argument" ∧ s.isSplat = false

theorem parameterName?_of_not_isParameter {n : Node} (h : n.isParameter = false) (src : Source) :
    n.parameterName? src = none := by
  obtain ⟨hkinds, htyped⟩ := Bool.or_eq_false_iff.mp h
  simp only [List.contains_cons, List.contains_nil, Bool.or_eq_false_iff] at hkinds
  obtain ⟨hidentifier, hdefault, htypedDefault, hlist, hdictionary, _⟩ := hkinds
  rw [parameterName?, hidentifier, hdefault, htypedDefault, hlist, hdictionary]
  cases hkind : n.kind == "typed_parameter" with
  | false => rfl
  | true =>
      rw [hkind, Bool.true_and, Bool.not_eq_false', List.isEmpty_iff] at htyped
      rw [htyped]
      rfl

section Conditional

variable {s : Node} (role : Option String) (hasError blockHasError : Bool)

theorem walkBelow_inConditional {cut p : Node → Bool} (hcut : Passes cut) (hp : Passes p) :
    (walkBelow cut (s.inConditional role hasError blockHasError)).filter p =
      (walkBelow cut s).filter p := by
  have hstep : ∀ l n, (Node.node l [n]).isScaffold = true →
      (walkBelow cut (.node l [n])).filter p = (walkBelow cut n).filter p := by
    intro l n hscaffold
    rw [filter_walkBelow_scaffold hcut hp hscaffold, children_node, walkAll, walkAll, List.append_nil]
  rw [inConditional, hstep _ _ rfl, hstep _ _ rfl]

theorem exchange_inConditional (hs : s.isContent = true) (hfield : s.field = none) :
    Exchange s.IsStatementBelow s (s.inConditional role hasError blockHasError) where
  field := hfield
  field' := rfl
  content := hs.symm ▸ rfl
  outline := fun _ hl => hl.kind.imp_right Or.inl
  walk := fun _ _ => walkBelow_inConditional role hasError blockHasError

end Conditional

end Node

/-! ## Definitions -/

section Stages

variable {s : Node} (role : Option String) (hasError blockHasError : Bool)

theorem ofStatement_inConditional (src : Source) (file : String) (parent : Option Symbol)
    (hs : s.isContent = true) :
    ofStatement src file parent false (s.inConditional role hasError blockHasError) =
      ofStatement src file parent false s := by
  have hblock : ∀ l : Label, ofBlock src file parent (.node l [s]) =
      ofStatement src file parent false s := by
    intro l
    rw [ofBlock, ofStatements, ofStatements, hs, append_empty]
    rfl
  rw [Node.inConditional, ofStatement_of_compound src file parent false _ (by simp [compoundStatements]),
    ofClauses, ofClauses, append_empty, hblock]
  simp [Node.isContent, Node.kind]

theorem sameDefinitions_inConditional (src : Source) (file : String) (hs : s.isContent = true) :
    SameDefinitions src file s.IsStatementBelow s (s.inConditional role hasError blockHasError) where
  statement := by
    intro l hl parent lenient hlenient
    cases lenient with
    | false => exact ofStatement_inConditional role hasError blockHasError src file parent hs
    | true =>
        have herror := hlenient rfl
        rcases hl.kind with hkind | hkind
        · exact absurd (hkind.symm.trans herror) (by decide)
        · exact absurd (hkind.symm.trans herror) (by decide)
  block := by
    intro l hl hcompound
    rcases hl.kind with hkind | hkind
    · rw [hkind] at hcompound
      exact absurd hcompound (by decide)
    · rw [hkind] at hcompound
      exact absurd hcompound (by decide)
  parameter := fun l hl hrole =>
    (Node.parameterName?_of_not_isParameter (hl.parameter hrole) src).symm ▸ rfl
  base := by
    intro l hl hrole
    obtain ⟨hkeyword, hsplat⟩ := hl.base hrole
    refine ⟨rfl, ?_⟩
    rw [hsplat, bne_iff_ne.mpr hkeyword]
    simp [Node.inConditional, Node.isSplat, Node.kind]

/-! ## Calls -/

/-- Below a module or a block no context is opened, so nothing depends on what stands above it. -/
theorem alike_below {σ σ' : Surroundings} {p p' : Node} {above above' : List Node}
    (hscope : σ'.scope = σ.scope) (haliases : σ'.aliases = σ.aliases)
    (hp : p.kind = "module" ∨ p.kind = "block") (hp' : p'.kind = "block") :
    Surroundings.Alike { σ with above := p :: above } { σ' with above := p' :: above' } := by
  have hawaited : ∀ (q : Node) (rest : List Node), q.kind = "module" ∨ q.kind = "block" →
      isAsyncUse (q :: rest) = false := by
    intro q rest hq
    rcases hq with hq | hq <;> simp [isAsyncUse_cons, hq]
  have hopens : ∀ (q : Node) (rest : List Node), q.kind = "module" ∨ q.kind = "block" →
      opensAsync (q :: rest) = false := by
    intro q rest hq
    rcases hq with hq | hq <;> simp [opensAsync_cons, Node.isContextPart, hq]
  refine ⟨hscope, haliases, ?_, ?_⟩
  · rw [hawaited p above hp, hawaited p' above' (Or.inr hp')]
  · rw [hopens p above hp, hopens p' above' (Or.inr hp')]

theorem callsFrom_inConditional (ctx : CallContext) {l : Label} {cs cs' : List Node}
    {σ σ' : Surroundings} (hl : l.kind = "module" ∨ l.kind = "block") (hσ : σ.Alike σ') :
    ctx.callsFrom (ctx.enter σ' (.node l cs') (s.inConditional role hasError blockHasError))
        (s.inConditional role hasError blockHasError) =
      ctx.callsFrom (ctx.enter σ (.node l cs) s) s := by
  have hp : (Node.node l cs).kind = "module" ∨ (Node.node l cs).kind = "block" := hl
  have hp' : (Node.node l cs').kind = "module" ∨ (Node.node l cs').kind = "block" := hl
  have hstep : ∀ {q : Node}, q.kind = "module" ∨ q.kind = "block" ∨ q.kind = "if_statement" →
      ∀ τ c, ctx.enter τ q c = { τ with above := q :: τ.above } := by
    rintro q (hq | hq | hq) τ c <;>
      exact ctx.enter_of_kind τ c (by rw [hq]; decide) (by rw [hq]; decide)
  have hdown : ∀ (τ : Surroundings) (l : Label) (n : Node), l.kind = "block" ∨ l.kind = "if_statement" →
      ctx.callsFrom τ (.node l [n]) =
        ctx.callsFrom { τ with above := .node l [n] :: τ.above } n := by
    intro τ l n hl
    have hkind : (Node.node l [n]).kind = "block" ∨ (Node.node l [n]).kind = "if_statement" := hl
    have hcall : (Node.node l [n]).kind ≠ "call" := by
      rcases hkind with hk | hk
      · rw [hk]; decide
      · rw [hk]; decide
    rw [ctx.callsFrom_of_kind τ hcall, Node.children_node, ctx.callsAmong_singleton,
      hstep (Or.inr hkind)]
  rw [hstep (hp'.imp_right Or.inl), hstep (hp.imp_right Or.inl), Node.inConditional,
    hdown _ _ _ (Or.inr rfl), hdown _ _ _ (Or.inl rfl)]
  exact ctx.callsFrom_alike (alike_below hσ.scope hσ.aliases hp rfl) s

theorem calls_inConditional {src : Source} {file : String} {t t' : Node}
    (hs : s.isContent = true) (hfield : s.field = none)
    (h : Replaces s.IsStatementBelow s (s.inConditional role hasError blockHasError) t t')
    (faults : Faults) :
    List.Forall₂ CallContext.SameCall ((fileContext faults file src t).calls t)
      ((fileContext faults file src t').calls t') := by
  refine calls_replaced (Node.exchange_inConditional role hasError blockHasError hs hfield)
    (sameDefinitions_inConditional role hasError blockHasError src file hs) h faults
    CallContext.keptAround_sameCalls fun l before after σ σ' hl hσ => ?_
  rw [callsFrom_inConditional role hasError blockHasError _ hl.kind hσ]
  exact CallContext.sameCalls_rfl _

end Stages

/-! ## Files -/

/-- Conditional blocks do not change scope. A statement of a module or of a block can be put under a
conditional: the analysis gives the same imports, variables, calls, endpoints, mounts, requests, tests
and diagnostics, and the same symbols up to documentation and stubs. -/
theorem conditional_keeps_facts {s t t' : Node} {role : Option String}
    {hasError blockHasError : Bool} (hs : s.isContent = true) (hfield : s.field = none)
    (h : Replaces s.IsStatementBelow s (s.inConditional role hasError blockHasError) t t')
    (config : Config) (faults : Faults) (file : String) (src : Source) (misfits : Misfits) :
    (analyzeFile config faults file src (some t') misfits).map FileOutcome.headers =
        (analyzeFile config faults file src (some t) misfits).map FileOutcome.headers ∧
      (t.kind = "module" → (Path.parse file).name ≠ "" →
        ∃ f f', analyzeFile config faults file src (some t) misfits = .ok (.facts f) ∧
          analyzeFile config faults file src (some t') misfits = .ok (.facts f') ∧
          f'.headers = f.headers) := by
  refine analyzeFile_of_moduleFacts config faults src misfits h.kind_eq fun module => ?_
  exact moduleFacts_replaced (Node.exchange_inConditional role hasError blockHasError hs hfield)
    (sameDefinitions_inConditional role hasError blockHasError src file hs) h config faults module
    misfits (calls_inConditional role hasError blockHasError hs hfield h faults)

/-! ## A method, a parameter and a base -/

/-- The tree of a class of the name `C`, with a statement as its body. -/
def classAround (s : Node) : Node :=
  .node { kind := "module", start := 0, stop := 29 }
    [.node { kind := "class_definition", start := 0, stop := 28 }
      [token "class" 0 5,
       .node { kind := "identifier", start := 6, stop := 7, field := some "name" } [],
       token ":" 7 8,
       .node { kind := "block", start := 11, stop := 28, field := some "body" } [s]]]

/-- The tree of the method `m` of that class. -/
def plainMethod : Node :=
  .node { kind := "function_definition", start := 11, stop := 28 }
    [token "def" 11 14,
     .node { kind := "identifier", start := 15, stop := 16, field := some "name" } [],
     .node { kind := "parameters", start := 16, stop := 22, field := some "parameters" }
      [token "(" 16 17, .node { kind := "identifier", start := 17, stop := 21 } [], token ")" 21 22],
     token ":" 22 23,
     .node { kind := "block", start := 24, stop := 28, field := some "body" }
      [.node { kind := "pass_statement", start := 24, stop := 28 } []]]

/-- A method that is defined under a condition is a method of its class. -/
theorem conditional_keeps_facts_method :
    let src := plainSource "class C:\n  def m(self): pass\n"
    let t := classAround plainMethod
    let t' := classAround (plainMethod.inConditional (some "consequence") false false)
    Replaces plainMethod.IsStatementBelow plainMethod
        (plainMethod.inConditional (some "consequence") false false) t t' ∧
      (fileSymbols Faults.none "m.py" src t').map (fun s => (s.qualifiedName, s.kind)) =
        [("C", .cls), ("C.m", .method)] ∧
      (analyzeFile {} Faults.none "m.py" src (some t')).map FileOutcome.headers =
        (analyzeFile {} Faults.none "m.py" src (some t)).map FileOutcome.headers ∧
      ∃ f f', analyzeFile {} Faults.none "m.py" src (some t) = .ok (.facts f) ∧
        analyzeFile {} Faults.none "m.py" src (some t') = .ok (.facts f') ∧
        f'.headers = f.headers := by
  intro src t t'
  have hbody : plainMethod.IsStatementBelow
      { kind := "block", start := 11, stop := 28, field := some "body" } :=
    ⟨Or.inr rfl, fun h => absurd h (by decide), fun h => absurd h (by decide)⟩
  have h : Replaces plainMethod.IsStatementBelow plainMethod
      (plainMethod.inConditional (some "consequence") false false) t t' :=
    @Replaces.inside _ _ _ _ [] [] _ _ (@Replaces.inside _ _ _ _ (_ :: _ :: _ :: []) [] _ _
      (@Replaces.here _ _ _ _ [] [] hbody))
  obtain ⟨heq, hfacts⟩ := conditional_keeps_facts rfl rfl h {} Faults.none "m.py" src {}
  exact ⟨h, by decide +kernel, heq, hfacts rfl (by decide)⟩

/-- The tree of a function with a block as its list of parameters. -/
def blockOfParameters (s : Node) : Node :=
  .node { kind := "module", start := 0, stop := 15 }
    [.node { kind := "function_definition", start := 0, stop := 14 }
      [token "def" 0 3,
       .node { kind := "identifier", start := 4, stop := 5, field := some "name" } [],
       .node { kind := "block", start := 6, stop := 7, field := some "parameters" } [s],
       token ":" 8 9,
       .node { kind := "block", start := 10, stop := 14, field := some "body" }
        [.node { kind := "pass_statement", start := 10, stop := 14 } []]]]

/-- The tree of a class with a block as its list of bases. -/
def blockOfBases (s : Node) : Node :=
  .node { kind := "module", start := 0, stop := 19 }
    [.node { kind := "class_definition", start := 0, stop := 18 }
      [token "class" 0 5,
       .node { kind := "identifier", start := 6, stop := 7, field := some "name" } [],
       .node { kind := "block", start := 8, stop := 11, field := some "superclasses" } [s],
       token ":" 12 13,
       .node { kind := "block", start := 14, stop := 18, field := some "body" }
        [.node { kind := "pass_statement", start := 14, stop := 18 } []]]]

/-- An entry of a list is not a statement. Where a block stands for the parameters of a function, a
parameter under a conditional is lost; where one stands for the bases of a class, a keyword under a
conditional becomes a base. -/
theorem conditional_changes_entries :
    let parameter : Node := .node { kind := "identifier", start := 6, stop := 7 } []
    let keyword : Node := .node { kind := "keyword_argument", start := 8, stop := 11 }
      [.node { kind := "identifier", start := 8, stop := 9, field := some "name" } [],
       token "=" 9 10,
       .node { kind := "identifier", start := 10, stop := 11, field := some "value" } []]
    let parameter' := parameter.inConditional none false false
    let keyword' := keyword.inConditional none false false
    let function := plainSource "def f(a): pass\n"
    let cls := plainSource "class C(k=M): pass\n"
    (parameter.isContent = true ∧ parameter.field = none ∧
      Replaces (fun l => l.kind = "block") parameter parameter' (blockOfParameters parameter)
        (blockOfParameters parameter') ∧
      ∃ f f', analyzeFile {} Faults.none "m.py" function (some (blockOfParameters parameter)) =
          .ok (.facts f) ∧
        analyzeFile {} Faults.none "m.py" function (some (blockOfParameters parameter')) =
          .ok (.facts f') ∧
        f.symbols.map (·.parameters) = [["a"]] ∧ f'.symbols.map (·.parameters) = [[]]) ∧
    (keyword.isContent = true ∧ keyword.field = none ∧
      Replaces (fun l => l.kind = "block") keyword keyword' (blockOfBases keyword)
        (blockOfBases keyword') ∧
      ∃ f f', analyzeFile {} Faults.none "m.py" cls (some (blockOfBases keyword)) =
          .ok (.facts f) ∧
        analyzeFile {} Faults.none "m.py" cls (some (blockOfBases keyword')) = .ok (.facts f') ∧
        f.symbols.map (·.bases) = [[]] ∧ f'.symbols.map (·.bases) = [["k=M"]]) := by
  intro parameter keyword parameter' keyword' function cls
  have hname : (Path.parse "m.py").name ≠ "" := by decide
  obtain ⟨module, hmodule⟩ := exists_moduleName hname
  have hfacts : ∀ (src : Source) (root : Node), root.kind = "module" →
      analyzeFile {} Faults.none "m.py" src (some root) =
        .ok (.facts (moduleFacts {} Faults.none "m.py" module src root)) := fun src root hkind =>
    analyzeFile_module {} {} Faults.none "m.py" module src root hkind hmodule
  refine ⟨⟨rfl, rfl, ?_, _, _, hfacts _ _ rfl, hfacts _ _ rfl, ?_, ?_⟩,
    ⟨rfl, rfl, ?_, _, _, hfacts _ _ rfl, hfacts _ _ rfl, ?_, ?_⟩⟩
  · exact @Replaces.inside _ _ _ _ [] [] _ _ (@Replaces.inside _ _ _ _ (_ :: _ :: []) (_ :: _ :: []) _ _
      (@Replaces.here _ _ _ _ [] [] rfl))
  · rw [moduleFacts_symbols]
    exact map_sortBy_of_singleton (by decide +kernel)
  · rw [moduleFacts_symbols]
    exact map_sortBy_of_singleton (by decide +kernel)
  · exact @Replaces.inside _ _ _ _ [] [] _ _ (@Replaces.inside _ _ _ _ (_ :: _ :: []) (_ :: _ :: []) _ _
      (@Replaces.here _ _ _ _ [] [] rfl))
  · rw [moduleFacts_symbols]
    exact map_sortBy_of_singleton (by decide +kernel)
  · rw [moduleFacts_symbols]
    exact map_sortBy_of_singleton (by decide +kernel)

end SourceFacts
