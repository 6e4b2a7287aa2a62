import Mathlib.Data.List.Forall2
import SourceFacts.Proofs.Call.Resolution
import SourceFacts.Proofs.File.Parts
import SourceFacts.Proofs.Import.Binding
import SourceFacts.Proofs.Order

/-!
# References between the facts of a file

What one section of the facts names is in another section: callers, targets, handlers, protocols,
implementers and tests are symbols, and requests are calls.
-/

namespace SourceFacts

open Definitions

/-! ## Sections over the symbols -/

theorem handler_endpoints {config : Config} {hint : Option String} {handler : String}
    {d : Decorator} {e : Endpoint} (h : e ∈ d.endpoints config hint handler) :
    e.handler = handler := by
  unfold Decorator.endpoints at h
  split at h
  · exact absurd h List.not_mem_nil
  · split at h
    · split at h
      · obtain ⟨method, _, rfl⟩ := List.mem_map.mp h
        rfl
      · exact absurd h List.not_mem_nil
    · exact absurd h List.not_mem_nil

theorem handler_endpointsOf {config : Config} {hint : Option String} {symbols : List Symbol}
    {misfits : Misfits} {e : Endpoint} (h : e ∈ endpointsOf config hint symbols misfits) :
    ∃ s ∈ symbols, s.kind ≠ .cls ∧ e.handler = s.qualifiedName := by
  obtain ⟨⟨s, d⟩, hsd, he⟩ := List.mem_flatMap.mp h
  have hdecoration : (s, d) ∈ decorations symbols := (List.takeWhile_sublist _).subset hsd
  obtain ⟨t, ht, htd⟩ := List.mem_flatMap.mp hdecoration
  obtain ⟨_, _, heq⟩ := List.mem_map.mp htd
  cases heq
  obtain ⟨hmem, hkind⟩ := List.mem_filter.mp ht
  exact ⟨s, hmem, of_decide_eq_true hkind, handler_endpoints he⟩

theorem name_protocols {symbols : List Symbol} {p : Protocol}
    (h : p ∈ (SymbolIndex.ofSymbols symbols).protocols) :
    ∃ s ∈ symbols, s.kind = .cls ∧ p.name = s.qualifiedName := by
  obtain ⟨c, hc, rfl⟩ := List.mem_map.mp h
  obtain ⟨hmem, hkind⟩ := SymbolIndex.mem_of_mem_allClasses (List.mem_filter.mp hc).1
  exact ⟨c, hmem, hkind, rfl⟩

theorem names_implementers {symbols : List Symbol} {i : Implementer}
    (h : i ∈ (SymbolIndex.ofSymbols symbols).implementers) :
    (∃ s ∈ symbols, s.kind = .cls ∧ i.className = s.qualifiedName) ∧
      ∃ p ∈ (SymbolIndex.ofSymbols symbols).protocols, i.protocol = p.name := by
  obtain ⟨c, hc, hi⟩ := List.mem_flatMap.mp h
  obtain ⟨p, hp, hmatch⟩ := List.mem_filterMap.mp hi
  obtain ⟨matchKind, _, rfl⟩ := Option.map_eq_some_iff.mp hmatch
  obtain ⟨hmem, hkind⟩ := SymbolIndex.mem_of_mem_allClasses (List.mem_filter.mp hc).1
  exact ⟨⟨c, hmem, hkind, rfl⟩, p, hp, rfl⟩

theorem symbol_testCase? {config : Config} {module : String} {index : SymbolIndex} {s : Symbol}
    {t : TestCase} (h : s.testCase? config module index = some t) :
    s.kind ≠ .cls ∧ t.symbol = s.qualifiedName := by
  unfold Symbol.testCase? at h
  split at h
  · split at h
    · rename_i hkind _
      cases h
      exact ⟨by simp [hkind], rfl⟩
    · rename_i hkind
      obtain ⟨c, _, rfl⟩ := Option.map_eq_some_iff.mp h
      exact ⟨by simp [hkind], rfl⟩
    · exact absurd h (by simp)
  · exact absurd h (by simp)

theorem symbol_testCasesOf {config : Config} {module : String} {symbols : List Symbol}
    {misfits : Misfits} {t : TestCase} (h : t ∈ testCasesOf config module symbols misfits) :
    ∃ s ∈ symbols, s.kind ≠ .cls ∧ t.symbol = s.qualifiedName := by
  obtain ⟨s, hs, ht⟩ := List.mem_filterMap.mp h
  obtain ⟨hkind, hsymbol⟩ := symbol_testCase? ht
  exact ⟨s, (List.takeWhile_sublist _).subset hs, hkind, hsymbol⟩

/-! ## Requests -/

/-- The request is sent by the call, through a library to which the module of its target belongs. -/
structure ClientCall.SentBy (config : Config) (c : CallSite) (r : ClientCall) : Prop where
  kind : c.kind = .importQualified
  caller : r.caller = c.caller
  line : r.line = c.line
  column : r.column = c.column
  isAsync : r.isAsync = c.isAwaited
  library : clientLibrary? config c.targetModule = some r.library

theorem CallSite.clientCall?_sentBy {src : Source} {config : Config} {c : CallSite} {n : Node}
    {r : ClientCall} (h : c.clientCall? src config n = some r) : r.SentBy config c := by
  unfold CallSite.clientCall? at h
  obtain ⟨_, hkind, h⟩ := Option.bind_eq_some_iff.mp h
  obtain ⟨function, _, h⟩ := Option.bind_eq_some_iff.mp h
  obtain ⟨_, _, h⟩ := Option.bind_eq_some_iff.mp h
  obtain ⟨library, hlibrary, h⟩ := Option.bind_eq_some_iff.mp h
  obtain ⟨⟨method, address⟩, _, h⟩ := Option.bind_eq_some_iff.mp h
  cases h
  refine ⟨?_, rfl, rfl, rfl, rfl, hlibrary⟩
  by_contra hne
  rw [guard, if_neg hne] at hkind
  exact absurd hkind (by simp)

/-- The calls that send a request, each with its request. -/
def senders (src : Source) (config : Config) (misfits : Misfits) (calls : List (CallSite × Node)) :
    List (CallSite × ClientCall) :=
  (beforeMisfit (fun c => c.1.clientMisfit? config misfits) calls).filterMap fun c =>
    (c.1.clientCall? src config c.2).map (c.1, ·)

theorem map_snd_senders (src : Source) (config : Config) (misfits : Misfits)
    (calls : List (CallSite × Node)) :
    (senders src config misfits calls).map (·.2) = clientCallsOf src config calls misfits := by
  rw [senders, clientCallsOf, List.map_filterMap]
  refine congrArg (List.filterMap · _) (funext fun c => ?_)
  rw [Option.map_map]
  exact Option.map_id'

theorem map_fst_senders_sublist (src : Source) (config : Config) (misfits : Misfits)
    (calls : List (CallSite × Node)) :
    ((senders src config misfits calls).map (·.1)).Sublist (calls.map (·.1)) := by
  have hbefore : (beforeMisfit (fun c : CallSite × Node => c.1.clientMisfit? config misfits)
      calls).Sublist calls := List.takeWhile_sublist _
  refine List.Sublist.trans ?_ (hbefore.map _)
  rw [senders, List.map_filterMap]
  induction beforeMisfit (fun c : CallSite × Node => c.1.clientMisfit? config misfits) calls with
  | nil => exact List.Sublist.refl _
  | cons c rest ih =>
      cases hc : c.1.clientCall? src config c.2 with
      | none =>
          rw [List.filterMap_cons_none (by rw [hc]; rfl)]
          exact ih.cons _
      | some r =>
          rw [List.filterMap_cons_some (by rw [hc]; rfl)]
          exact ih.cons_cons _

theorem sentBy_of_mem_senders {src : Source} {config : Config} {misfits : Misfits}
    {calls : List (CallSite × Node)} {e : CallSite × ClientCall}
    (h : e ∈ senders src config misfits calls) : e.2.SentBy config e.1 := by
  obtain ⟨c, _, hc⟩ := List.mem_filterMap.mp h
  obtain ⟨r, hr, rfl⟩ := Option.map_eq_some_iff.mp hc
  exact CallSite.clientCall?_sentBy hr

/-- The requests in order are sent by calls in order. -/
theorem forall₂_sentBy (src : Source) (config : Config) (misfits : Misfits)
    (calls : List (CallSite × Node)) :
    ∃ sending : List CallSite,
      sending.Sublist (sortBy (thenBy (compareOn (·.line.rank)) (compareOn (·.column.rank)))
        (calls.map (·.1))) ∧
      List.Forall₂ (ClientCall.SentBy config) sending
        (sortBy (thenBy (compareOn (·.line.rank)) (compareOn (·.column.rank)))
          (clientCallsOf src config calls misfits)) := by
  -- Calls and requests are sorted together, by the places of the calls.
  let cmp : CallSite × ClientCall → CallSite × ClientCall → Ordering :=
    thenBy (compareOn (·.1.line.rank)) (compareOn (·.1.column.rank))
  have hfst : (sortBy cmp (senders src config misfits calls)).map (·.1) =
      sortBy (thenBy (compareOn (·.line.rank)) (compareOn (·.column.rank)))
        ((senders src config misfits calls).map (·.1)) :=
    map_sortBy _ _ fun a _ b _ => rfl
  have hsnd : (sortBy cmp (senders src config misfits calls)).map (·.2) =
      sortBy (thenBy (compareOn (·.line.rank)) (compareOn (·.column.rank)))
        ((senders src config misfits calls).map (·.2)) := by
    refine map_sortBy _ _ fun a ha b hb => ?_
    have hsa := sentBy_of_mem_senders ha
    have hsb := sentBy_of_mem_senders hb
    simp only [cmp, thenBy, compareOn, hsa.line, hsa.column, hsb.line, hsb.column]
  refine ⟨_, sortBy_sublist _ (map_fst_senders_sublist src config misfits calls), ?_⟩
  rw [← map_snd_senders, ← hfst, ← hsnd, List.forall₂_map_left_iff, List.forall₂_map_right_iff,
    List.forall₂_same]
  exact fun e he => sentBy_of_mem_senders (mem_sortBy.mp he)

/-! ## The facts of a file -/

/-- What the sections of the facts name is there. -/
structure FileFacts.Refer (config : Config) (bound : Import → Prop) (f : FileFacts) : Prop where
  calls : ∀ c ∈ f.calls, c.Refers f.symbols bound
  endpoints : ∀ e ∈ f.endpoints, ∃ s ∈ f.symbols, s.kind ≠ .cls ∧ e.handler = s.qualifiedName
  protocols : ∀ p ∈ f.protocols, ∃ s ∈ f.symbols, s.kind = .cls ∧ p.name = s.qualifiedName
  implementers : ∀ i ∈ f.implementers,
    (∃ s ∈ f.symbols, s.kind = .cls ∧ i.className = s.qualifiedName) ∧
      ∃ s ∈ f.symbols, s.kind = .cls ∧ i.protocol = s.qualifiedName
  tests : ∀ t ∈ f.tests, ∃ s ∈ f.symbols, s.kind ≠ .cls ∧ t.symbol = s.qualifiedName
  clientCalls : ∃ sending : List CallSite, sending.Sublist f.calls ∧
    List.Forall₂ (ClientCall.SentBy config) sending f.clientCalls

section File

variable (config : Config) (misfits : Misfits) (faults : Faults) (file module : String)
variable (src : Source) (root : Node)

/-- A stage of imports that works makes the binding from a statement of the file. -/
def BoundByFile (i : Import) : Prop :=
  faults .imports = none ∧ BoundIn src file root i

theorem boundByFile_of_moduleMap {i : Import}
    (h : i ∈ (fileImports faults file src root).moduleMap.entries) :
    BoundByFile faults file src root i := by
  cases himports : faults .imports with
  | some message =>
      simp only [fileImports, Faults.run, himports] at h
      exact absurd h List.not_mem_nil
  | none =>
      rw [fileImports, Faults.run_of_none himports] at h
      exact ⟨himports, boundIn_of_moduleMap h⟩

theorem boundByFile_of_localMaps {start : Nat} {m : ImportMap} {i : Import}
    (hm : (start, m) ∈ (fileImports faults file src root).localMaps.entries) (hi : i ∈ m.entries) :
    BoundByFile faults file src root i := by
  cases himports : faults .imports with
  | some message =>
      simp only [fileImports, Faults.run, himports] at hm
      exact absurd hm List.not_mem_nil
  | none =>
      rw [fileImports, Faults.run_of_none himports] at hm
      exact ⟨himports, boundIn_of_localMaps hm hi⟩

theorem fileContext_backed :
    (fileContext faults file src root).Backed (fileSymbols faults file src root)
      (BoundByFile faults file src root) where
  index_eq := rfl
  method_nested := by
    intro s hs hparent
    obtain ⟨e, he, rfl⟩ := List.mem_map.mp hs
    obtain ⟨d, hd⟩ := exists_origin he
    obtain ⟨_, parent, _, _, hmade⟩ := hd.made
    rw [hmade.parent_eq, Option.map_eq_none_iff] at hparent
    subst hparent
    exact hmade.kind_ne_method
  symbolAt_mem := fun start s hs => List.mem_map.mpr ⟨(start, s), mem_of_symbolAt hs, rfl⟩
  imports_bound := fun name i hi =>
    boundByFile_of_moduleMap faults file src root (ImportMap.mem_entries_of_get? hi)
  localImports_bound := by
    intro q m name i hm hi
    obtain ⟨⟨start, m'⟩, hentry, hs⟩ :=
      List.mem_filterMap.mp (Dictionary.mem_of_get?_ofList hm)
    obtain ⟨s, _, heq⟩ := Option.map_eq_some_iff.mp hs
    cases heq
    exact boundByFile_of_localMaps faults file src root hentry (ImportMap.mem_entries_of_get? hi)

theorem fileCalls_refer {c : CallSite × Node} (h : c ∈ fileCalls faults file src root) :
    c.1.Refers (fileSymbols faults file src root) (BoundByFile faults file src root) := by
  obtain ⟨n, above, _, _, rfl⟩ := (CallContext.mem_calls_iff _).mp (Faults.mem_of_mem_run h)
  exact (fileContext_backed faults file src root).refers

theorem CallSite.Refers.mono {symbols symbols' : List Symbol} {bound : Import → Prop}
    {c : CallSite} (h : c.Refers symbols bound) (hmem : ∀ s, s ∈ symbols → s ∈ symbols') :
    c.Refers symbols' bound where
  caller := h.caller.imp_right fun ⟨s, hs, heq⟩ => ⟨s, hmem s hs, heq⟩
  selfMethod := fun hk =>
    let ⟨hm, s, hs, hkind, heq⟩ := h.selfMethod hk
    ⟨hm, s, hmem s hs, hkind, heq⟩
  sameFile := fun hk =>
    let ⟨hm, s, hs, hkind, heq⟩ := h.sameFile hk
    ⟨hm, s, hmem s hs, hkind, heq⟩
  importQualified := h.importQualified
  unresolved := h.unresolved
  builtin := h.builtin
  receiver := h.receiver

theorem moduleFacts_refer :
    (moduleFacts config faults file module src root misfits).Refer config
      (BoundByFile faults file src root) where
  calls := by
    intro c hc
    rw [moduleFacts_calls, mem_sortBy] at hc
    obtain ⟨site, hsite, rfl⟩ := List.mem_map.mp hc
    refine (fileCalls_refer faults file src root hsite).mono fun s hs => ?_
    rw [moduleFacts_symbols]
    exact mem_sortBy.mpr hs
  endpoints := by
    intro e he
    rw [moduleFacts_endpoints, mem_sortBy] at he
    simp only [moduleFacts_symbols, mem_sortBy]
    exact handler_endpointsOf (Faults.mem_of_mem_run he)
  protocols := by
    intro p hp
    rw [moduleFacts_protocols, mem_sortBy] at hp
    simp only [moduleFacts_symbols, mem_sortBy]
    exact name_protocols (Faults.mem_of_mem_run hp)
  implementers := by
    intro i hi
    rw [moduleFacts_implementers, mem_sortBy] at hi
    simp only [moduleFacts_symbols, mem_sortBy]
    obtain ⟨hclass, p, hp, hname⟩ := names_implementers (Faults.mem_of_mem_run hi)
    rw [hname]
    exact ⟨hclass, name_protocols hp⟩
  tests := by
    intro t ht
    rw [moduleFacts_tests, mem_sortBy] at ht
    simp only [moduleFacts_symbols, mem_sortBy]
    have htest := Faults.mem_of_mem_run ht
    split at htest
    · exact symbol_testCasesOf htest
    · exact absurd htest List.not_mem_nil
  clientCalls := by
    rw [moduleFacts_calls, moduleFacts_clientCalls]
    cases hstage : faults .clientCalls with
    | none =>
        rw [Faults.run_of_none hstage]
        exact forall₂_sentBy src config misfits _
    | some message =>
        simp only [Faults.run, hstage]
        exact ⟨[], List.nil_sublist _, by simp [sortBy]⟩

end File

/-- What the facts of a file name is there, for every tree of a module, every configuration and
whichever stages break down. Callers, targets in the file, handlers, protocols, implementers and tests
are symbols of the right kind, targets in other modules come from a binding of the file, and the
requests in order are sent by calls in order. -/
theorem facts_refer (config : Config) (misfits : Misfits) (faults : Faults) (file module : String)
    (src : Source) (root : Node) (hkind : root.kind = "module")
    (hname : moduleName file = .ok module) :
    ∃ f, analyzeFile config faults file src (some root) misfits = .ok (.facts f) ∧
      f.Refer config (BoundByFile faults file src root) :=
  ⟨_, analyzeFile_module config misfits faults file module src root hkind hname,
    moduleFacts_refer config misfits faults file module src root⟩

/-- The tree of an import of `os` and a call of `os.getcwd`. -/
def importedCall : Node :=
  .node { kind := "module", start := 0, stop := 22 }
    [.node { kind := "import_statement", start := 0, stop := 9 }
      [.node { kind := "dotted_name", start := 7, stop := 9, field := some "name" } []],
     .node { kind := "expression_statement", start := 10, stop := 21 }
      [.node { kind := "call", start := 10, stop := 21 }
        [.node { kind := "attribute", start := 10, stop := 19, field := some "function" }
          [.node { kind := "identifier", start := 10, stop := 12, field := some "object" } [],
           .node { kind := "identifier", start := 13, stop := 19, field := some "attribute" } []]]]]

theorem facts_refer_importedCall :
    importedCall.kind = "module" ∧ moduleName "a.py" = .ok "a" ∧
      (fileCalls Faults.none "a.py" ⟨"import os\nos.getcwd()\n".toUTF8.toList⟩ importedCall).map
        (·.1.targetModule) = [some "os"] ∧
      ∃ f, analyzeFile {} Faults.none "a.py" ⟨"import os\nos.getcwd()\n".toUTF8.toList⟩
          (some importedCall) = .ok (.facts f) ∧
        f.Refer {} (BoundByFile Faults.none "a.py" ⟨"import os\nos.getcwd()\n".toUTF8.toList⟩
          importedCall) :=
  ⟨rfl, rfl, by decide +kernel, facts_refer {} {} Faults.none "a.py" "a" _ importedCall rfl rfl⟩

end SourceFacts
