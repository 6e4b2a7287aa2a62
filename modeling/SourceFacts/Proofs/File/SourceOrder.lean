import SourceFacts.Proofs.Call.Preorder
import SourceFacts.Proofs.File.References
import SourceFacts.Proofs.Symbol.Statement
import SourceFacts.Proofs.Syntax.Span

/-!
# Facts in the order of the source

The stages append what they find while they follow the tree. Where the spans of the tree are nested,
the lists they leave are already in the order of lines and columns, and sorting them changes nothing.
So the last definition of a name in the facts is the one against which calls were resolved.
-/

namespace SourceFacts

open Definitions Spot

/-! ## Variables -/

section Variables

variable (src : Source) (file : String)

/-- The variables are bound by nodes of the region, in order and each on the line of its node. -/
def BoundAlong (region : List Node) (defs : Definitions) : Prop :=
  ∃ ns : List Node, ns.Sublist region ∧
    defs.moduleVariables.map (·.line) = ns.map fun n => some (src.line n : Int)

/-- In whichever way the node is visited, variables are bound along it. -/
structure BindsAlong (n : Node) : Prop where
  statement : ∀ parent lenient,
    BoundAlong src n.preorder (ofStatement src file parent lenient n)
  block : ∀ parent, BoundAlong src n.preorder (ofBlock src file parent n)
  definition : ∀ parent decorators,
    BoundAlong src n.preorder (ofDefinition src file parent decorators n)

namespace BoundAlong

variable {src file}

theorem of_nil {region : List Node} {defs : Definitions} (h : defs.moduleVariables = []) :
    BoundAlong src region defs :=
  ⟨[], List.nil_sublist _, by rw [h]; rfl⟩

theorem mono {region region' : List Node} {defs : Definitions} (h : BoundAlong src region defs)
    (hsub : region.Sublist region') : BoundAlong src region' defs := by
  obtain ⟨ns, hns, hlines⟩ := h
  exact ⟨ns, hns.trans hsub, hlines⟩

theorem append {region region' : List Node} {a b : Definitions} (ha : BoundAlong src region a)
    (hb : BoundAlong src region' b) : BoundAlong src (region ++ region') (a ++ b) := by
  obtain ⟨ns, hns, hlines⟩ := ha
  obtain ⟨ms, hms, hlines'⟩ := hb
  refine ⟨ns ++ ms, hns.append hms, ?_⟩
  have happend : (a ++ b).moduleVariables = a.moduleVariables ++ b.moduleVariables := rfl
  rw [happend, List.map_append, List.map_append, hlines, hlines']

theorem define {region : List Node} (parent : Option Symbol) (decorators : List Decorator) (n : Node)
    {inside : Symbol → Definitions} (h : ∀ s, BoundAlong src region (inside s)) :
    BoundAlong src region (Definitions.define src file parent decorators n inside) := by
  unfold Definitions.define
  cases givenName? src n with
  | none => exact of_nil rfl
  | some name => exact h _

theorem moduleVariable (n : Node) : BoundAlong src [n] (Definitions.moduleVariable src n) := by
  unfold Definitions.moduleVariable
  split
  · split
    · split
      · split
        · exact ⟨[n], List.Sublist.refl _, rfl⟩
        · exact of_nil rfl
      · exact of_nil rfl
    · exact of_nil rfl
  · exact of_nil rfl

/-- What is read from the content of some nodes one by one. -/
theorem eachContent {all : List Node → Definitions} {one : Node → Definitions} (hnil : all [] = {})
    (hcons : ∀ c cs, all (c :: cs) = (if c.isContent then one c else {}) ++ all cs) (ns : List Node)
    (h : ∀ c ∈ ns, BoundAlong src c.preorder (one c)) :
    BoundAlong src (ns.flatMap Node.preorder) (all ns) := by
  induction ns with
  | nil =>
      rw [hnil]
      exact of_nil rfl
  | cons c cs ih =>
      rw [hcons, List.flatMap_cons]
      apply append
      · split
        · exact h c List.mem_cons_self
        · exact of_nil rfl
      · exact ih fun d hd => h d (List.mem_cons_of_mem _ hd)

/-- What is read from one of some nodes, if it is found. -/
theorem found {p : Node → Bool} {one : Node → Definitions} {otherwise : Definitions} (ns : List Node)
    (h : ∀ c ∈ ns, BoundAlong src c.preorder (one c)) (hnone : otherwise.moduleVariables = []) :
    BoundAlong src (ns.flatMap Node.preorder) (((ns.find? p).map one).getD otherwise) := by
  cases hfind : ns.find? p with
  | none => exact of_nil hnone
  | some c =>
      have hc := List.mem_of_find?_eq_some hfind
      have hone : [c].Sublist ns := List.singleton_sublist.mpr hc
      apply (h c hc).mono
      simpa using hone.flatMap Node.preorder

end BoundAlong

variable {src file}

theorem below_sublist (n : Node) : (n.children.flatMap Node.preorder).Sublist n.preorder := by
  rw [Node.preorder_eq n]
  exact List.sublist_cons_self _ _

/-- One step down the tree: what a node binds is bound by itself or along its children. -/
theorem BindsAlong.of_children {n : Node} (h : ∀ c ∈ n.children, BindsAlong src file c) :
    BindsAlong src file n := by
  have hstatements : ∀ parent lenient, BoundAlong src (n.children.flatMap Node.preorder)
      (ofStatements src file parent lenient n.children) := fun parent lenient =>
    .eachContent (by rw [ofStatements]) (fun c cs => by rw [ofStatements]) _
      fun c hc => (h c hc).statement parent lenient
  have hbody : ∀ symbol, BoundAlong src (n.children.flatMap Node.preorder)
      (ofBody src file symbol n.children) := by
    intro symbol
    rw [ofBody_eq]
    exact .found _ (fun c hc => (h c hc).block (some symbol)) rfl
  constructor
  · intro parent lenient
    rw [ofStatement_eq]
    split
    · exact (BoundAlong.define parent [] n hbody).mono (below_sublist n)
    split
    · rw [ofDecorated_eq]
      apply BoundAlong.mono _ (below_sublist n)
      exact .found _ (fun c hc => (h c hc).definition parent _) rfl
    split
    · apply BoundAlong.mono _ (below_sublist n)
      refine .eachContent (by rw [ofClauses]) (fun c cs => by rw [ofClauses]) _ fun c hc => ?_
      split
      · exact (h c hc).block parent
      split
      · exact (h c hc).statement parent false
      · exact .of_nil rfl
    split
    · split
      · exact (BoundAlong.moduleVariable n).mono
          (List.singleton_sublist.mpr n.mem_preorder_self)
      · exact .of_nil rfl
    split
    · exact (hstatements parent true).mono (below_sublist n)
    split
    · exact .of_nil rfl
    · exact .of_nil rfl
  · intro parent
    have hblock : ofBlock src file parent n = ofStatements src file parent false n.children := by
      cases n
      rw [ofBlock, Node.children_node]
    rw [hblock]
    exact (hstatements parent false).mono (below_sublist n)
  · intro parent decorators
    rw [ofDefinition_eq]
    split
    · exact (BoundAlong.define parent decorators n hbody).mono (below_sublist n)
    · exact .of_nil rfl

theorem bindsAlong (src : Source) (file : String) (n : Node) : BindsAlong src file n := by
  induction n using Node.inductionOnChildren with
  | step n ih => exact .of_children ih

theorem boundAlong_ofModule (src : Source) (file : String) (root : Node) :
    BoundAlong src root.preorder (ofModule src file root) := by
  apply BoundAlong.mono _ (below_sublist root)
  exact .eachContent (by rw [ofStatements]) (fun c cs => by rw [ofStatements]) _
    fun c _ => (bindsAlong src file c).statement none false

end Variables

/-! ## What is found along the tree -/

/-- The lists of facts that are found by following the tree. -/
@[ext]
structure TreeFacts where
  imports : List Import
  symbols : List Symbol
  moduleVariables : List Variable
  calls : List CallSite
  clientCalls : List ClientCall
  routerMounts : List RouterMount
  tests : List TestCase

/-- These lists among the facts of a file. -/
def FileFacts.treeFacts (f : FileFacts) : TreeFacts where
  imports := f.imports
  symbols := f.symbols
  moduleVariables := f.moduleVariables
  calls := f.calls
  clientCalls := f.clientCalls
  routerMounts := f.routerMounts
  tests := f.tests

/-- Where a fact stands: its line, then its column. -/
def placeOf (line column : Coordinate) : ℤ ×ₗ ℤ :=
  toLex (line.rank, column.rank)

/-- No fact stands before one that comes earlier in its list. -/
structure TreeFacts.Ascend (t : TreeFacts) : Prop where
  imports : t.imports.Pairwise fun a b => a.line.rank ≤ b.line.rank
  symbols : t.symbols.Pairwise fun a b => placeOf a.line a.column ≤ placeOf b.line b.column
  moduleVariables : t.moduleVariables.Pairwise fun a b => a.line.rank ≤ b.line.rank
  calls : t.calls.Pairwise fun a b => placeOf a.line a.column ≤ placeOf b.line b.column
  clientCalls : t.clientCalls.Pairwise fun a b => placeOf a.line a.column ≤ placeOf b.line b.column
  routerMounts : t.routerMounts.Pairwise fun a b => a.line.rank ≤ b.line.rank
  tests : t.tests.Pairwise fun a b => a.line.rank ≤ b.line.rank

section Found

variable {src : Source} {root : Node}

theorem pairwise_line (src : Source) {ns : List Node} (h : ns.Pairwise fun a b => a.start ≤ b.start) :
    ns.Pairwise fun a b => (src.line a : ℤ) ≤ src.line b :=
  h.imp fun hab => Int.ofNat_le.mpr (src.lineAt_mono hab)

theorem pairwise_place (src : Source) {ns : List Node} (h : ns.Pairwise fun a b => a.start ≤ b.start) :
    ns.Pairwise fun a b => src.placeAt a.start ≤ src.placeAt b.start :=
  h.imp fun hab => src.placeAt_mono hab

/-- Facts with the keys of some nodes, one by one, are in order if the nodes are. -/
theorem pairwise_of_map_eq {α κ : Type} [LE κ] {f : α → κ} {g : Node → κ} {l : List α}
    {ns : List Node} (hmap : l.map f = ns.map g) (h : ns.Pairwise fun a b => g a ≤ g b) :
    l.Pairwise fun a b => f a ≤ f b := by
  have hkeys : (ns.map g).Pairwise (· ≤ ·) := List.pairwise_map.mpr h
  rw [← hmap] at hkeys
  exact List.pairwise_map.mp hkeys

theorem placeOf_madeFrom {d : Node} {parent : Option Symbol} {s : Symbol}
    (h : MadeFrom src d parent s) : placeOf s.line s.column = src.placeAt d.start := by
  obtain ⟨decorators, name, children, _, rfl⟩ := h
  dsimp only [definitionSymbol]
  split <;> rfl

theorem line_bindings {file : String} {statement : Node} {i : Import}
    (h : i ∈ (ImportReading.ofStatement src file statement).bindings) :
    i.line = some (src.line statement : ℤ) := by
  have hnames : ∀ module empty,
      i ∈ (ImportReading.ofNames src file statement module empty).bindings →
        i.line = some (src.line statement : ℤ) := by
    intro module empty hi
    obtain ⟨read, hread, hbinding⟩ := List.mem_filterMap.mp hi
    obtain ⟨n, _, rfl⟩ := List.mem_map.mp hread
    unfold ImportReading.binding? at hbinding
    split at hbinding
    · obtain ⟨⟨name, given⟩, _, rfl⟩ := Option.map_eq_some_iff.mp hbinding
      cases module <;> rfl
    · cases module with
      | none => rw [← Option.some.inj hbinding]
      | some m => rw [← Option.some.inj hbinding]
  unfold ImportReading.ofStatement at h
  split at h
  · exact absurd h List.not_mem_nil
  split at h
  · exact hnames _ _ h
  split at h
  · exact absurd h List.not_mem_nil
  split at h
  · exact absurd h List.not_mem_nil
  · exact hnames _ _ h

theorem line_mount? {config : Config} {hint : Option String} {n : Node} {m : RouterMount}
    (h : n.mount? src config hint = some m) : m.line = some (src.line n : ℤ) := by
  unfold Node.mount? at h
  obtain ⟨_, _, h⟩ := Option.bind_eq_some_iff.mp h
  obtain ⟨callee, _, h⟩ := Option.bind_eq_some_iff.mp h
  obtain ⟨_, _, h⟩ := Option.bind_eq_some_iff.mp h
  obtain ⟨_, _, h⟩ := Option.bind_eq_some_iff.mp h
  rw [← Option.some.inj h]

theorem line_testCase? {config : Config} {module : String} {index : SymbolIndex} {s : Symbol}
    {t : TestCase} (h : s.testCase? config module index = some t) : t.line = s.line := by
  unfold Symbol.testCase? at h
  split at h
  · split at h
    · rw [← Option.some.inj h]
    · obtain ⟨c, _, rfl⟩ := Option.map_eq_some_iff.mp h
      rfl
    · exact absurd h (by simp)
  · exact absurd h (by simp)

theorem pairwise_calls (ctx : CallContext) (h : root.WellSpanned) :
    ((ctx.calls root).map (·.1)).Pairwise fun a b =>
      placeOf a.line a.column ≤ placeOf b.line b.column := by
  have htexts := congrArg (List.map fun e : String × Coordinate × Coordinate =>
    placeOf e.2.1 e.2.2) (ctx.meetsEach_calls root).texts
  rw [List.map_map, List.map_map] at htexts
  rw [List.pairwise_map]
  exact pairwise_of_map_eq htexts (pairwise_place _ (h.pairwise_start.filter _))

theorem pairwise_imports (file : String) (h : root.WellSpanned) :
    (FileImports.ofTree src file root).imports.Pairwise fun a b => a.line.rank ≤ b.line.rank := by
  have hstatements := pairwise_line src
    ((h.pairwise_start.sublist (root.walk_sublist Node.isDefinition)).filter Node.isImport)
  unfold FileImports.ofTree
  dsimp only
  rw [List.flatMap_map, List.pairwise_flatMap]
  constructor
  · intro statement _
    apply List.pairwise_of_forall_mem_list
    intro i hi j hj
    rw [line_bindings hi, line_bindings hj]
  · apply hstatements.imp
    intro a b hab i hi j hj
    rwa [line_bindings hi, line_bindings hj]

theorem pairwise_routerMounts (config : Config) (hint : Option String) (misfits : Misfits)
    (h : root.WellSpanned) :
    (routerMountsOf src config hint root misfits).Pairwise fun a b => a.line.rank ≤ b.line.rank := by
  unfold routerMountsOf
  rw [List.pairwise_filterMap]
  have hbefore := (List.takeWhile_sublist (fun n => (Node.mountMisfit? src misfits n).isNone)).trans
    (root.walk_sublist Node.isDefinition)
  apply (pairwise_line src (h.pairwise_start.sublist hbefore)).imp
  intro a b hab m hm m' hm'
  rwa [line_mount? hm, line_mount? hm']

theorem pairwise_tests {symbols : List Symbol} (config : Config) (module : String)
    (misfits : Misfits) (h : symbols.Pairwise fun a b => a.line.rank ≤ b.line.rank) :
    (testCasesOf config module symbols misfits).Pairwise fun a b => a.line.rank ≤ b.line.rank := by
  unfold testCasesOf
  dsimp only
  rw [List.pairwise_filterMap]
  apply (h.sublist (List.takeWhile_sublist _)).imp
  intro a b hab t ht t' ht'
  rwa [line_testCase? ht, line_testCase? ht']

theorem pairwise_clientCalls {calls : List (CallSite × Node)} (config : Config) (misfits : Misfits)
    (h : (calls.map (·.1)).Pairwise fun a b =>
      placeOf a.line a.column ≤ placeOf b.line b.column) :
    (clientCallsOf src config calls misfits).Pairwise fun a b =>
      placeOf a.line a.column ≤ placeOf b.line b.column := by
  unfold clientCallsOf
  rw [List.pairwise_filterMap]
  apply ((List.pairwise_map.mp h).sublist (List.takeWhile_sublist _)).imp
  intro a b hab r hr r' hr'
  have hsent := CallSite.clientCall?_sentBy hr
  have hsent' := CallSite.clientCall?_sentBy hr'
  rwa [hsent.line, hsent.column, hsent'.line, hsent'.column]

end Found

/-! ## The facts of a file -/

section File

variable (config : Config) (misfits : Misfits) (faults : Faults) (file module : String)
variable (src : Source) (root : Node)

/-- The lists as the stages append to them. -/
def appendedFacts : TreeFacts where
  imports := (fileImports faults file src root).imports
  symbols := fileSymbols faults file src root
  moduleVariables := (fileDefinitions faults file src root).moduleVariables
  calls := (fileCalls faults file src root).map (·.1)
  clientCalls := faults.run .clientCalls
    (clientCallsOf src config (fileCalls faults file src root) misfits) []
  routerMounts := faults.run .endpoints
    (if (endpointsMisfit? config misfits (fileSymbols faults file src root)).isNone then
      routerMountsOf src config (fileImports faults file src root).moduleMap.framework? root misfits
    else []) []
  tests := faults.run .tests
    (if (testFileMisfit? misfits file).isNone then
      testCasesOf config module (fileSymbols faults file src root) misfits
    else []) []

/-- The facts of a module are those that the stages append, put in order. -/
theorem exists_moduleFacts_eq_sorted :
    ∃ found : FileFacts, moduleFacts config faults file module src root misfits = found.sorted ∧
      found.treeFacts = appendedFacts config misfits faults file module src root :=
  ⟨_, rfl, rfl⟩

variable {root}

theorem pairwise_symbols (h : root.WellSpanned) :
    (fileSymbols faults file src root).Pairwise fun a b =>
      placeOf a.line a.column ≤ placeOf b.line b.column := by
  obtain ⟨ds, hds, horigins⟩ := fileDefinitions_originate faults file src root
  have hplaces : (fileDefinitions faults file src root).symbols.map
      (fun e => placeOf e.2.line e.2.column) = ds.map fun d => src.placeAt d.start := by
    rw [← List.forall₂_eq_eq_eq, List.forall₂_map_left_iff, List.forall₂_map_right_iff]
    apply horigins.flip.imp
    intro e d he
    obtain ⟨_, _, _, _, hmade⟩ := he.made
    exact placeOf_madeFrom hmade
  unfold fileSymbols
  rw [List.pairwise_map]
  exact pairwise_of_map_eq hplaces (pairwise_place _ (h.pairwise_start.sublist hds))

theorem line_le_of_placeOf_le {l c l' c' : Coordinate} (h : placeOf l c ≤ placeOf l' c') :
    l.rank ≤ l'.rank := by
  rw [placeOf, placeOf, Prod.Lex.toLex_le_toLex] at h
  rcases h with hlt | ⟨heq, _⟩
  · exact hlt.le
  · exact heq.le

theorem pairwise_moduleVariables (h : root.WellSpanned) :
    (fileDefinitions faults file src root).moduleVariables.Pairwise fun a b =>
      a.line.rank ≤ b.line.rank := by
  unfold fileDefinitions
  apply Faults.run_induction (P := fun d : Definitions => d.moduleVariables.Pairwise fun a b =>
    a.line.rank ≤ b.line.rank)
  · obtain ⟨ns, hns, hlines⟩ := boundAlong_ofModule src file root
    have hranks := congrArg (List.map Coordinate.rank) hlines
    rw [List.map_map, List.map_map] at hranks
    exact pairwise_of_map_eq hranks (pairwise_line _ (h.pairwise_start.sublist hns))
  · exact .nil

/-- What the stages append is in the order of the source. -/
theorem appendedFacts_ascend (h : root.WellSpanned) :
    (appendedFacts config misfits faults file module src root).Ascend := by
  have hsymbols := pairwise_symbols faults file src h
  have hcalls : ((fileCalls faults file src root).map (·.1)).Pairwise fun a b =>
      placeOf a.line a.column ≤ placeOf b.line b.column :=
    Faults.run_induction (P := fun calls : List (CallSite × Node) => (calls.map (·.1)).Pairwise
      fun a b => placeOf a.line a.column ≤ placeOf b.line b.column) (pairwise_calls _ h) .nil
  constructor
  · apply Faults.run_induction (P := fun i : FileImports => i.imports.Pairwise fun a b =>
      a.line.rank ≤ b.line.rank)
    · exact pairwise_imports file h
    · exact .nil
  · exact hsymbols
  · exact pairwise_moduleVariables faults file src h
  · exact hcalls
  · exact Faults.run_induction (pairwise_clientCalls config misfits hcalls) .nil
  · refine Faults.run_induction ?_ .nil
    split
    · exact pairwise_routerMounts config _ misfits h
    · exact .nil
  · refine Faults.run_induction ?_ .nil
    split
    · exact pairwise_tests config module misfits (hsymbols.imp line_le_of_placeOf_le)
    · exact .nil

end File

/-! ## Sorting -/

theorem sortBy_line {α : Type} {line : α → ℤ} {l : List α}
    (h : l.Pairwise fun a b => line a ≤ line b) : sortBy (compareOn line) l = l :=
  sortBy_of_pairwise (h.imp (notAfter_compareOn_iff _ _ _).mpr)

theorem sortBy_place {α : Type} {line column : α → ℤ} {l : List α}
    (h : l.Pairwise fun a b => toLex (line a, column a) ≤ toLex (line b, column b)) :
    sortBy (thenBy (compareOn line) (compareOn column)) l = l :=
  sortBy_of_pairwise (h.imp (notAfter_thenBy_iff _ _ _ _).mpr)

theorem treeFacts_sorted {f : FileFacts} (h : f.treeFacts.Ascend) :
    f.sorted.treeFacts = f.treeFacts := by
  apply TreeFacts.ext
  · exact sortBy_line h.imports
  · exact sortBy_place h.symbols
  · exact sortBy_line h.moduleVariables
  · exact sortBy_place h.calls
  · exact sortBy_place h.clientCalls
  · exact sortBy_line h.routerMounts
  · exact sortBy_line h.tests

theorem symbol?_eq_get? {f : FileFacts} {symbols : List Symbol} (h : f.symbols = symbols)
    (q : String) : f.symbol? q = (SymbolIndex.ofSymbols symbols).get? (some q) := by
  rw [SymbolIndex.get?_ofSymbols, FileFacts.symbol?, h]
  rfl

/-- In a tree whose spans are nested, the stages leave their lists in the order of the source, and sorting
changes none of them. So a name means in the facts what it meant while the calls were resolved. -/
theorem sorting_keeps_found (config : Config) (misfits : Misfits) (faults : Faults)
    (file module : String) (src : Source) (root : Node) (hkind : root.kind = "module")
    (hname : moduleName file = .ok module) (hspans : root.WellSpanned) :
    ∃ found : FileFacts,
      analyzeFile config faults file src (some root) misfits = .ok (.facts found.sorted) ∧
      found.treeFacts = appendedFacts config misfits faults file module src root ∧
      found.treeFacts.Ascend ∧
      found.sorted.treeFacts = found.treeFacts ∧
      ∀ q, found.sorted.symbol? q = (fileContext faults file src root).index.get? (some q) := by
  obtain ⟨found, hfound, htree⟩ :=
    exists_moduleFacts_eq_sorted config misfits faults file module src root
  have hascend : found.treeFacts.Ascend :=
    htree ▸ appendedFacts_ascend config misfits faults file module src hspans
  have hsorted := treeFacts_sorted hascend
  refine ⟨found, ?_, htree, hascend, hsorted, ?_⟩
  · rw [analyzeFile_module config misfits faults file module src root hkind hname, hfound]
  · intro q
    have hsymbols := congrArg TreeFacts.symbols (hsorted.trans htree)
    exact symbol?_eq_get? hsymbols q

/-- The tree of a function that is defined twice. -/
def functionTwice : Node :=
  .node { kind := "module", start := 0, stop := 28 }
    [letterFunction 0 13 none (idleBody 9), letterFunction 14 27 none (idleBody 23)]

theorem sorting_keeps_found_functionTwice :
    let src := plainSource "def f(): pass\ndef f(): pass\n"
    functionTwice.kind = "module" ∧ moduleName "m.py" = .ok "m" ∧ functionTwice.WellSpanned ∧
    ∃ found : FileFacts,
      analyzeFile {} Faults.none "m.py" src (some functionTwice) = .ok (.facts found.sorted) ∧
      found.sorted.treeFacts = found.treeFacts ∧
      found.treeFacts.symbols.map (fun s => (s.qualifiedName, s.line)) =
        [("f", some 1), ("f", some 2)] ∧
      (found.sorted.symbol? "f").map (·.line) = some (some 2) := by
  intro src
  have hspans : functionTwice.WellSpanned := by decide +kernel
  obtain ⟨found, hfacts, happended, _, hsorted, hsymbol⟩ :=
    sorting_keeps_found {} {} Faults.none "m.py" "m" src functionTwice rfl rfl hspans
  refine ⟨rfl, rfl, hspans, found, hfacts, hsorted, ?_, ?_⟩
  · rw [happended]
    decide +kernel
  · rw [hsymbol]
    decide +kernel

end SourceFacts
