import SourceFacts.Proofs.Call.Replace
import SourceFacts.Proofs.File.Comment
import SourceFacts.Proofs.Symbol.Replace

/-!
# Files in which a statement gave way

What each stage finds in a tree in which one statement gave way to another one that defines and imports
the same. The facts stay as they are up to the headers of the symbols, if the calls do.
-/

namespace SourceFacts

open Node (Replaces Exchange Passes Touched)

/-! ## Tests that no scaffold passes -/

theorem Node.passes_kinds {kinds : List String}
    (h : ∀ kind ∈ kinds, scaffoldKinds.contains kind = false) :
    Passes fun n => kinds.contains n.kind where
  label := fun n n' hlabel => by rw [Node.kind, Node.kind, hlabel]
  scaffold := fun n hn => by
    cases hcontains : kinds.contains n.kind with
    | false => rfl
    | true =>
        have hfalse := h n.kind (List.contains_iff_mem.mp hcontains)
        exact absurd ((Bool.and_eq_true_iff.mp hn).2.symm.trans hfalse) (by decide)

theorem Node.passes_isDefinition : Passes Node.isDefinition := by
  have heq : Node.isDefinition = fun n =>
      ["function_definition", "class_definition", "decorated_definition"].contains n.kind := by
    funext n
    simp only [Node.isDefinition, List.contains_cons, List.contains_nil, Bool.or_false, Bool.or_assoc]
  rw [heq]
  exact Node.passes_kinds (by decide)

theorem Node.passes_isImport : Passes Node.isImport := by
  have heq : Node.isImport = fun n =>
      ["import_statement", "import_from_statement"].contains n.kind := by
    funext n
    simp only [Node.isImport, List.contains_cons, List.contains_nil, Bool.or_false]
  rw [heq]
  exact Node.passes_kinds (by decide)

theorem Node.passes_kind {kind : String} (h : scaffoldKinds.contains kind = false) :
    Passes fun n => n.kind == kind := by
  have heq : (fun n : Node => n.kind == kind) = fun n : Node => [kind].contains n.kind := by
    funext n
    simp only [List.contains_cons, List.contains_nil, Bool.or_false]
  rw [heq]
  exact Node.passes_kinds fun k hk => List.mem_singleton.mp hk ▸ h

theorem Node.passes_false : Passes fun _ => false := ⟨fun _ _ _ => rfl, fun _ _ => rfl⟩

theorem Node.syntaxProblem?_of_label (src : Source) (file : String) {n n' : Node}
    (h : n'.label = n.label) : n'.syntaxProblem? src file = n.syntaxProblem? src file := by
  cases n with
  | node l cs =>
  cases n' with
  | node l' cs' =>
      obtain rfl : l' = l := h
      rfl

theorem Node.passes_syntaxProblem (src : Source) (file : String) :
    Passes fun n => (n.syntaxProblem? src file).isSome where
  label := fun n n' h => by rw [Node.syntaxProblem?_of_label src file h]
  scaffold := fun n hn => by
    have herror : (n.kind == "ERROR") = false :=
      (@Node.passes_kind "ERROR" (by decide)).scaffold n hn
    have hmissing : n.label.isMissing = false := by
      simpa using (Bool.and_eq_true_iff.mp hn).1
    have hnone : n.syntaxProblem? src file = none := by
      rw [Node.syntaxProblem?, hmissing, herror]
      rfl
    rw [hnone]
    rfl

/-! ## Imports, mounts and problems of syntax -/

section Walks

variable {src : Source} {file : String} {allowed : Label → Prop} {s s' n n' : Node}
variable (hx : Exchange allowed s s')

include hx

theorem map_importsWithin (h : Replaces allowed s s' n n') :
    n'.importsWithin.map (ImportReading.ofStatement src file) =
      n.importsWithin.map (ImportReading.ofStatement src file) := by
  refine h.map_walk hx Node.passes_isDefinition Node.passes_isImport fun a a' ha hp => ?_
  have hp' : a'.isImport = true := (Node.passes_isImport.label a a' ha.label_eq).trans hp
  rw [← ImportReading.ofStatement_outline src file hp', ha.outline_eq hx,
    ImportReading.ofStatement_outline src file hp]

theorem localImports?_touched (h : Touched allowed s s' n n') :
    localImports? src file n' = localImports? src file n := by
  rcases h with rfl | h
  · rfl
  unfold localImports?
  rcases h.child? hx "body" with heq | ⟨c, c', hc, hc', hr⟩
  · rw [heq, h.start_eq]
  · rw [hc, hc', Option.map_some, Option.map_some, map_importsWithin hx hr, h.start_eq]

theorem FileImports.ofTree_replaced (h : Replaces allowed s s' n n') :
    FileImports.ofTree src file n' = FileImports.ofTree src file n := by
  have hinner : n'.functions.filterMap (localImports? src file) =
      n.functions.filterMap (localImports? src file) := by
    have hmap : n'.functions.map (localImports? src file) =
        n.functions.map (localImports? src file) :=
      h.map_walk hx Node.passes_false (Node.passes_kind (by decide))
        fun a a' ha _ => localImports?_touched hx ha
    have hid := congrArg (List.filterMap id) hmap
    rwa [List.filterMap_map, List.filterMap_map] at hid
  simp only [FileImports.ofTree, map_importsWithin hx h, hinner]

theorem map_calls_walk {β : Type} {g : Node → β} (h : Replaces allowed s s' n n')
    (hg : ∀ m, Node.isOpaque m.kind = false → g m.outline = g m) :
    ((n'.walk Node.isDefinition).filter fun m => m.kind == "call").map g =
      ((n.walk Node.isDefinition).filter fun m => m.kind == "call").map g := by
  refine h.map_walk hx Node.passes_isDefinition (Node.passes_kind (by decide)) fun a a' ha hp => ?_
  have hopaque : Node.isOpaque a.kind = false := Node.isOpaque_of_kind hp (by decide)
  have hkind : a'.kind = a.kind := congrArg Label.kind ha.label_eq
  rw [← hg a' (hkind ▸ hopaque), ha.outline_eq hx, hg a hopaque]

theorem routerMountsOf_replaced (config : Config) (hint : Option String) (misfits : Misfits)
    (h : Replaces allowed s s' n n') :
    routerMountsOf src config hint n' misfits = routerMountsOf src config hint n misfits := by
  have hread : ∀ m : Node, routerMountsOf src config hint m misfits =
      (beforeMisfit Prod.fst (((m.walk Node.isDefinition).filter fun m => m.kind == "call").map
        fun m => (m.mountMisfit? src misfits, m.mount? src config hint))).filterMap Prod.snd := by
    intro m
    rw [routerMountsOf, ← filterMap_beforeMisfit_filter (fun _ => Node.mountMisfit?_of_kind src)
      (fun _ => Node.mount?_of_kind src), beforeMisfit_map, List.filterMap_map]
    rfl
  rw [hread, hread, map_calls_walk hx h fun m hm => by
    rw [Node.mountMisfit?_outline src misfits hm, Node.mount?_outline src config hint hm]]

theorem routerMountsMisfit?_replaced (misfits : Misfits) (h : Replaces allowed s s' n n') :
    routerMountsMisfit? src misfits n' = routerMountsMisfit? src misfits n := by
  have hread : ∀ m : Node, routerMountsMisfit? src misfits m =
      (((m.walk Node.isDefinition).filter fun m => m.kind == "call").map
        (Node.mountMisfit? src misfits)).findSome? id := by
    intro m
    rw [routerMountsMisfit?, List.findSome?_map, ← List.head?_filterMap, ← List.head?_filterMap,
      List.filterMap_filter]
    refine congrArg List.head? (List.filterMap_congr fun c _ => ?_)
    cases hcall : c.kind == "call" with
    | true => rfl
    | false => exact Node.mountMisfit?_of_kind src hcall
  rw [hread, hread, map_calls_walk hx h fun m hm => Node.mountMisfit?_outline src misfits hm]

theorem syntaxDiagnostics_replaced (h : Replaces allowed s s' n n') :
    syntaxDiagnostics src file n' = syntaxDiagnostics src file n := by
  have hread : ∀ l : List Node, l.filterMap (Node.syntaxProblem? src file) =
      ((l.filter fun m => (m.syntaxProblem? src file).isSome).map
        (Node.syntaxProblem? src file)).filterMap id := by
    intro l
    rw [List.filterMap_map, List.filterMap_filter]
    refine List.filterMap_congr fun m _ => ?_
    cases hm : m.syntaxProblem? src file <;> simp [hm]
  have hmap := h.map_walk (g := Node.syntaxProblem? src file) hx
    (@Node.passes_kind "ERROR" (by decide)) (Node.passes_syntaxProblem src file)
    fun a a' ha _ => Node.syntaxProblem?_of_label src file ha.label_eq
  unfold syntaxDiagnostics
  rw [h.label_eq, hread, hread, hmap]

end Walks

/-! ## What the stages hand on -/

section Stages

variable {src : Source} {file : String} {allowed : Label → Prop} {s s' root root' : Node}
variable (hx : Exchange allowed s s') (hd : SameDefinitions src file allowed s s')
variable (h : Replaces allowed s s' root root') (faults : Faults)

include hx h in
theorem fileImports_replaced :
    fileImports faults file src root' = fileImports faults file src root := by
  rw [fileImports, fileImports, FileImports.ofTree_replaced hx h]

theorem Definitions.ofModule_eq (src : Source) (file : String) (root : Node) :
    ofModule src file root = ofBlock src file none root := by
  cases root with
  | node l cs => rw [ofModule, ofBlock, Node.children_node]

include hx hd h in
theorem headers_fileDefinitions :
    (fileDefinitions faults file src root').headers =
      (fileDefinitions faults file src root).headers := by
  rw [fileDefinitions, fileDefinitions, Definitions.ofModule_eq, Definitions.ofModule_eq,
    ← Faults.run_map faults .symbols Definitions.headers,
    ← Faults.run_map faults .symbols Definitions.headers, (h.sameHeaders hx hd).block none]

include hx hd h in
theorem map_header_fileSymbols :
    (fileSymbols faults file src root').map Symbol.header =
      (fileSymbols faults file src root).map Symbol.header := by
  rw [fileSymbols, fileSymbols, ← Definitions.map_snd_headers, ← Definitions.map_snd_headers,
    headers_fileDefinitions hx hd h faults]

include hx hd h in
theorem headers_fileContext :
    (fileContext faults file src root').headers = (fileContext faults file src root).headers := by
  have hread : ∀ r : Node, (fileContext faults file src r).headers =
      { src
        imports := (fileImports faults file src r).moduleMap
        symbolAt := (fileDefinitions faults file src r).headers.byOffset
        index := SymbolIndex.ofSymbols ((fileSymbols faults file src r).map Symbol.header)
        localImports := localImportsByName (fileDefinitions faults file src r).headers.byOffset
          (fileImports faults file src r).localMaps } := by
    intro r
    rw [Definitions.byOffset_headers, localImportsByName_mapValues_header,
      SymbolIndex.ofSymbols_map_header]
    rfl
  rw [hread, hread, fileImports_replaced hx h faults, headers_fileDefinitions hx hd h faults,
    map_header_fileSymbols hx hd h faults]

include hx hd h in
/-- The calls of the file are related if those of the statement that gave way are. -/
theorem calls_replaced {L : List (CallSite × Node) → List (CallSite × Node) → Prop}
    (hL : CallContext.KeptAround L)
    (hole : ∀ l before after σ σ', allowed l → Surroundings.Alike σ σ' →
      L ((fileContext faults file src root).headers.callsFrom
          ((fileContext faults file src root).headers.enter σ (.node l (before ++ s :: after)) s) s)
        ((fileContext faults file src root).headers.callsFrom
          ((fileContext faults file src root).headers.enter σ' (.node l (before ++ s' :: after)) s')
          s')) :
    L ((fileContext faults file src root).calls root)
      ((fileContext faults file src root').calls root') := by
  rw [← CallContext.calls_headers, ← (fileContext faults file src root').calls_headers,
    headers_fileContext hx hd h faults]
  exact CallContext.callsFrom_replaced _ hx hL h hole (Surroundings.alike_rfl _)

end Stages

/-! ## Calls that stay -/

section SameCalls

variable {calls calls' : List (CallSite × Node)}

theorem CallContext.SameCall.clientCall?_eq {c c' : CallSite × Node} (h : SameCall c c') (src : Source)
    (config : Config) : c'.1.clientCall? src config c'.2 = c.1.clientCall? src config c.2 := by
  obtain ⟨hsite, hnode | ⟨hkind, houtline⟩⟩ := h
  · rw [hsite, hnode]
  · have hopaque : Node.isOpaque c.2.kind = false := by rw [hkind]; decide
    have hkind' : c'.2.kind = c.2.kind := by rw [← Node.kind_outline, houtline, Node.kind_outline]
    rw [hsite, ← CallSite.clientCall?_outline src config c.1 (hkind' ▸ hopaque), houtline,
      CallSite.clientCall?_outline src config c.1 hopaque]

theorem map_eq_of_sameCalls {β : Type} {g : CallSite × Node → β}
    (hg : ∀ c c', CallContext.SameCall c c' → g c' = g c)
    (h : List.Forall₂ CallContext.SameCall calls calls') : calls'.map g = calls.map g := by
  induction h with
  | nil => rfl
  | cons hc _ ih => rw [List.map_cons, List.map_cons, hg _ _ hc, ih]

theorem clientCallsOf_sameCalls (src : Source) (config : Config) (misfits : Misfits)
    (h : List.Forall₂ CallContext.SameCall calls calls') :
    clientCallsOf src config calls' misfits = clientCallsOf src config calls misfits := by
  have hread : ∀ l : List (CallSite × Node), clientCallsOf src config l misfits =
      (beforeMisfit Prod.fst (l.map fun c =>
        (c.1.clientMisfit? config misfits, c.1.clientCall? src config c.2))).filterMap Prod.snd := by
    intro l
    rw [clientCallsOf, beforeMisfit_map, List.filterMap_map]
    rfl
  rw [hread, hread, map_eq_of_sameCalls (fun c c' hc => by rw [hc.clientCall?_eq, hc.1]) h]

theorem clientCallsMisfit?_sameCalls (config : Config) (misfits : Misfits)
    (h : List.Forall₂ CallContext.SameCall calls calls') :
    clientCallsMisfit? config misfits calls' = clientCallsMisfit? config misfits calls := by
  have hread : ∀ l : List (CallSite × Node), clientCallsMisfit? config misfits l =
      (l.map fun c => c.1.clientMisfit? config misfits).findSome? id := by
    intro l
    rw [clientCallsMisfit?, List.findSome?_map]
    rfl
  rw [hread, hread, map_eq_of_sameCalls (fun c c' hc => by rw [hc.1]) h]

end SameCalls

/-! ## Facts -/

/-- The facts with the headers of the symbols, without documentation and protocols. -/
def FileFacts.headers (f : FileFacts) : FileFacts :=
  { f with
    docstring := none
    symbols := f.symbols.map Symbol.header
    protocols := []
    implementers := [] }

theorem FileFacts.headers_sorted (f : FileFacts) : f.sorted.headers = f.headers.sorted := by
  have hsymbols : (sortBy (thenBy (compareOn (·.line.rank)) (compareOn (·.column.rank)))
      f.symbols).map Symbol.header =
        sortBy (thenBy (compareOn (·.line.rank)) (compareOn (·.column.rank)))
          (f.symbols.map Symbol.header) := map_sortBy Symbol.header f.symbols fun _ _ _ _ => rfl
  have hnil : ∀ (α : Type) (cmp : α → α → Ordering), sortBy cmp [] = [] := fun _ _ => by
    simp [sortBy]
  simp only [FileFacts.headers, FileFacts.sorted, hsymbols, hnil]

section Facts

variable (config : Config) (misfits : Misfits) (faults : Faults) (file module : String)
variable (src : Source) (root : Node)

/-- What stops the stages, given the symbols and the calls of the file. -/
def stoppedStages (symbols : List Symbol) (calls : List (CallSite × Node)) :
    Stage → Option Misfit
  | .endpoints => endpointsMisfit? config misfits symbols <|> routerMountsMisfit? src misfits root
  | .clientCalls => clientCallsMisfit? config misfits calls
  | .tests => testFileMisfit? misfits file <|> testCasesMisfit? config misfits symbols
  | _ => none

/-- The facts, up to headers, from what the stages hand on. -/
theorem headers_moduleFacts :
    (moduleFacts config faults file module src root misfits).headers =
      FileFacts.sorted
        { path := file
          module
          contentHash := Digest.sha256 (src.slice root.start root.stop)
          isTestFile := faults.run .tests
            ((testFileMisfit? misfits file).isNone && isTestFile config file) false
          imports := (fileImports faults file src root).imports
          symbols := (fileSymbols faults file src root).map Symbol.header
          moduleVariables := (fileDefinitions faults file src root).headers.moduleVariables
          calls := (fileCalls faults file src root).map (·.1)
          endpoints := faults.run .endpoints
            (endpointsOf config (fileImports faults file src root).moduleMap.framework?
              ((fileSymbols faults file src root).map Symbol.header) misfits) []
          routerMounts := faults.run .endpoints
            (if (endpointsMisfit? config misfits
                ((fileSymbols faults file src root).map Symbol.header)).isNone then
              routerMountsOf src config (fileImports faults file src root).moduleMap.framework? root
                misfits
            else []) []
          clientCalls := faults.run .clientCalls
            (clientCallsOf src config (fileCalls faults file src root) misfits) []
          tests := faults.run .tests
            (if (testFileMisfit? misfits file).isNone then
              testCasesOf config module ((fileSymbols faults file src root).map Symbol.header) misfits
            else []) []
          diagnostics :=
            syntaxDiagnostics src file root ++ (fileImports faults file src root).diagnostics ++
              (fileDefinitions faults file src root).headers.diagnostics ++
              (faults.orMisfits (stoppedStages config misfits file src root
                ((fileSymbols faults file src root).map Symbol.header)
                (fileCalls faults file src root))).diagnostics file } := by
  have hstopped : stoppedStages config misfits file src root
      ((fileSymbols faults file src root).map Symbol.header) (fileCalls faults file src root) =
        stoppedStages config misfits file src root (fileSymbols faults file src root)
          (fileCalls faults file src root) := by
    funext stage
    cases stage <;>
      simp only [stoppedStages, endpointsMisfit?_map_header, testCasesMisfit?_map_header]
  rw [hstopped, endpointsOf_map_header, endpointsMisfit?_map_header, testCasesOf_map_header]
  exact FileFacts.headers_sorted _

end Facts

theorem moduleFacts_replaced {src : Source} {file : String} {allowed : Label → Prop}
    {s s' root root' : Node} (hx : Exchange allowed s s')
    (hd : SameDefinitions src file allowed s s') (h : Replaces allowed s s' root root')
    (config : Config) (faults : Faults) (module : String) (misfits : Misfits)
    (hfound : List.Forall₂ CallContext.SameCall ((fileContext faults file src root).calls root)
      ((fileContext faults file src root').calls root')) :
    (moduleFacts config faults file module src root' misfits).headers =
      (moduleFacts config faults file module src root misfits).headers := by
  have hcalls : List.Forall₂ CallContext.SameCall (fileCalls faults file src root)
      (fileCalls faults file src root') := by
    unfold fileCalls Faults.run
    split
    · exact .nil
    · exact hfound
  have hsites : (fileCalls faults file src root').map (·.1) =
      (fileCalls faults file src root).map (·.1) :=
    map_eq_of_sameCalls (fun _ _ hc => hc.1) hcalls
  have hstopped : ∀ symbols, stoppedStages config misfits file src root' symbols
      (fileCalls faults file src root') =
        stoppedStages config misfits file src root symbols (fileCalls faults file src root) := by
    intro symbols
    funext stage
    cases stage <;> simp only [stoppedStages, routerMountsMisfit?_replaced hx misfits h,
      clientCallsMisfit?_sameCalls config misfits hcalls]
  have hstop : root'.stop = root.stop := congrArg Label.stop h.label_eq
  rw [headers_moduleFacts, headers_moduleFacts, fileImports_replaced hx h faults,
    map_header_fileSymbols hx hd h faults, headers_fileDefinitions hx hd h faults, hsites, hstopped,
    routerMountsOf_replaced hx config _ misfits h, clientCallsOf_sameCalls src config misfits hcalls,
    syntaxDiagnostics_replaced hx h, h.start_eq, hstop]

/-- What the analysis of a file gives, with the facts up to headers. -/
def FileOutcome.headers : FileOutcome → FileOutcome
  | .facts f => .facts f.headers
  | .failure d => .failure d

theorem analyzeFile_of_moduleFacts (config : Config) (faults : Faults) {file : String} (src : Source)
    (misfits : Misfits) {t t' : Node} (hkind : t'.kind = t.kind)
    (hfacts : ∀ module, (moduleFacts config faults file module src t' misfits).headers =
      (moduleFacts config faults file module src t misfits).headers) :
    (analyzeFile config faults file src (some t') misfits).map FileOutcome.headers =
        (analyzeFile config faults file src (some t) misfits).map FileOutcome.headers ∧
      (t.kind = "module" → (Path.parse file).name ≠ "" →
        ∃ f f', analyzeFile config faults file src (some t) misfits = .ok (.facts f) ∧
          analyzeFile config faults file src (some t') misfits = .ok (.facts f') ∧
          f'.headers = f.headers) := by
  constructor
  · unfold analyzeFile
    dsimp only
    rw [hkind]
    cases t.kind == "module" with
    | false => rw [if_neg Bool.false_ne_true, if_neg Bool.false_ne_true]
    | true =>
        rw [if_pos rfl, if_pos rfl]
        cases moduleName file with
        | error e => simp only [bind, Except.bind, Except.map]
        | ok module => exact congrArg (Except.ok ∘ FileOutcome.facts) (hfacts module)
  · intro hmodule hname
    obtain ⟨module, hnamed⟩ := exists_moduleName hname
    exact ⟨_, _, analyzeFile_module config misfits faults file module src t hmodule hnamed,
      analyzeFile_module config misfits faults file module src t' (hkind.trans hmodule) hnamed,
      hfacts module⟩

end SourceFacts
