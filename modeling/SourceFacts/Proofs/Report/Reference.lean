import SourceFacts.Proofs.Call.Priority
import SourceFacts.Proofs.File.References
import SourceFacts.Proofs.Report.Merge
import SourceFacts.Report.Table

/-!
# References between the tables of a report

Calls and endpoints refer to symbols by identifiers that are made once more from a file and a name. What
they refer to is a row of the symbols. Of the identifiers only that they follow from the file and the
name is used, not how they are made.
-/

namespace SourceFacts

open Document (fieldOf)

/-! ## The facts of a file -/

/-- What the calls and the endpoints of a file refer to are its symbols. -/
structure FileFacts.RefersToOwn (f : FileFacts) : Prop where
  calls : ∀ c ∈ f.calls, ∃ bound, c.Refers f.symbols bound
  endpoints : ∀ e ∈ f.endpoints, ∃ s ∈ f.symbols, e.handler = s.qualifiedName

theorem FileFacts.RefersToOwn.sorted {f : FileFacts} (h : f.RefersToOwn) :
    f.sorted.RefersToOwn where
  calls := by
    intro c hc
    obtain ⟨bound, hrefers⟩ := h.calls c (f.sorted_sortedFrom.calls.perm.mem_iff.mp hc)
    exact ⟨bound, hrefers.mono fun s hs => f.sorted_sortedFrom.symbols.perm.mem_iff.mpr hs⟩
  endpoints := by
    intro e he
    obtain ⟨s, hs, hhandler⟩ := h.endpoints e (f.sorted_sortedFrom.endpoints.perm.mem_iff.mp he)
    exact ⟨s, f.sorted_sortedFrom.symbols.perm.mem_iff.mpr hs, hhandler⟩

theorem refersToOwn_of_analyzeFile {config : Config} {faults : Faults} {file : String}
    {src : Source} {tree : Option Node} {misfits : Misfits} {f : FileFacts}
    (h : analyzeFile config faults file src tree misfits = .ok (.facts f)) : f.RefersToOwn := by
  unfold analyzeFile at h
  cases tree with
  | none => exact absurd h (by simp)
  | some root =>
      dsimp only at h
      split at h
      · cases hname : moduleName file with
        | error e => simp [hname, bind, Except.bind] at h
        | ok module =>
            simp only [hname, bind, Except.bind, pure, Except.pure, Except.ok.injEq,
              FileOutcome.facts.injEq] at h
            subst h
            have hrefer := moduleFacts_refer config misfits faults file module src root
            refine ⟨fun c hc => ⟨_, hrefer.calls c hc⟩, fun e he => ?_⟩
            obtain ⟨s, hs, _, hhandler⟩ := hrefer.endpoints e he
            exact ⟨s, hs, hhandler⟩
      · exact absurd h (by simp)

/-! ## Identifiers -/

theorem referredId?_eq_none_iff {file name : String} :
    referredId? file name = none ↔ name = moduleScope ∨ name = "" := by
  unfold referredId?
  simp only [Bool.or_eq_true, String.isEmpty_iff, beq_iff_eq, ite_eq_left_iff, reduceCtorEq,
    imp_false, Classical.not_not]
  exact or_comm

theorem eq_symbolId_of_referredId? {file name id : String} (h : referredId? file name = some id) :
    id = symbolId file name := by
  unfold referredId? at h
  split at h
  · exact absurd h (by simp)
  · exact (Option.some.inj h).symm

/-! ## The tables -/

namespace Report

variable (r : Report)

/-- The rows of the table with a name. -/
def rowsNamed (name : String) : List Document.Fields :=
  (r.tables.filter fun t => t.name == name).flatMap (·.rows)

theorem rowsNamed_symbols : r.rowsNamed "symbols" = r.rowsOf (·.symbols) symbolRow := by
  simp [rowsNamed, tables]

theorem rowsNamed_calls : r.rowsNamed "calls" = r.rowsOf (·.calls) callRow := by
  simp [rowsNamed, tables]

theorem rowsNamed_endpoints : r.rowsNamed "endpoints" = r.rowsOf (·.endpoints) endpointRow := by
  simp [rowsNamed, tables]

theorem mem_rowsOf {α : Type} {facts : FileFacts → List α} {row : String → α → Document.Fields}
    {fields : Document.Fields} :
    fields ∈ r.rowsOf facts row ↔ ∃ f ∈ r.files, ∃ a ∈ facts f, fields = row f.path a := by
  simp only [rowsOf, List.mem_flatMap, List.mem_map, eq_comm]

/-- A row of the symbols has an identifier, a file and a qualified name. -/
def HasSymbol (id file path : Document) : Prop :=
  ∃ row ∈ r.rowsNamed "symbols",
    fieldOf row "id" = id ∧ fieldOf row "file" = file ∧ fieldOf row "path" = path

/-- The row of a call refers to rows of the symbols. Its caller has an identifier unless it is the module
or has an empty name; its target has one exactly if it is a definition of the file, again neither with
the name of the module nor with an empty one. -/
structure CallRefers (row : Document.Fields) : Prop where
  caller : fieldOf row "caller_id" ≠ .null →
    r.HasSymbol (fieldOf row "caller_id") (fieldOf row "file") (fieldOf row "caller")
  caller_missing : fieldOf row "caller_id" = .null ↔
    fieldOf row "caller" = .text moduleScope ∨ fieldOf row "caller" = .text ""
  target : fieldOf row "target_id" ≠ .null →
    r.HasSymbol (fieldOf row "target_id") (fieldOf row "file") (fieldOf row "target_symbol")
  target_present : fieldOf row "target_id" ≠ .null ↔
    (fieldOf row "kind" = .text "SelfMethodCall" ∨ fieldOf row "kind" = .text "SameFileCall") ∧
      ∃ name, fieldOf row "target_symbol" = .text name ∧ name ≠ moduleScope ∧ name ≠ ""

/-- All rows of the calls and of the endpoints refer to rows of the symbols. -/
structure KeysRefer : Prop where
  calls : ∀ row ∈ r.rowsNamed "calls", r.CallRefers row
  endpoints : ∀ row ∈ r.rowsNamed "endpoints",
    r.HasSymbol (fieldOf row "handler_id") (fieldOf row "file") (fieldOf row "handler")

variable {r}

theorem hasSymbol_of_mem {f : FileFacts} {s : Symbol} (hf : f ∈ r.files) (hs : s ∈ f.symbols) :
    r.HasSymbol (.text (symbolId f.path s.qualifiedName)) (.text f.path) (.text s.qualifiedName) :=
  ⟨symbolRow f.path s, by rw [rowsNamed_symbols, mem_rowsOf]; exact ⟨f, hf, s, hs, rfl⟩,
    rfl, rfl, rfl⟩

theorem optional_text_eq_null_iff {o : Option String} : Document.optional .text o = .null ↔ o = none := by
  cases o <;> simp [Document.optional]

/-- What is referred to by the name of a symbol is the row of that symbol. -/
theorem hasSymbol_of_referredId? {f : FileFacts} {s : Symbol} (hf : f ∈ r.files)
    (hs : s ∈ f.symbols) (hid : Document.optional .text (referredId? f.path s.qualifiedName) ≠ .null) :
    r.HasSymbol (Document.optional .text (referredId? f.path s.qualifiedName)) (.text f.path)
      (.text s.qualifiedName) := by
  cases hreferred : referredId? f.path s.qualifiedName with
  | none => exact absurd (optional_text_eq_null_iff.mpr hreferred) hid
  | some id =>
      obtain rfl := eq_symbolId_of_referredId? hreferred
      exact hasSymbol_of_mem hf hs

/-- The target of a call that is resolved to a definition of the file. -/
theorem targetId?_of_isLocal {symbols : List Symbol} {bound : Import → Prop} {c : CallSite}
    (hc : c.Refers symbols bound) (hlocal : c.IsLocal) (file : String) :
    ∃ s ∈ symbols, c.targetSymbol = some s.qualifiedName ∧
      targetId? file c = referredId? file s.qualifiedName := by
  rcases hlocal with hkind | hkind
  · obtain ⟨hmodule, s, hs, _, htarget⟩ := hc.selfMethod hkind
    exact ⟨s, hs, htarget, by rw [targetId?, hmodule, htarget]⟩
  · obtain ⟨hmodule, s, hs, _, htarget⟩ := hc.sameFile hkind
    exact ⟨s, hs, htarget, by rw [targetId?, hmodule, htarget]⟩

theorem targetId?_of_not_isLocal {symbols : List Symbol} {bound : Import → Prop} {c : CallSite}
    (hc : c.Refers symbols bound) (hlocal : ¬ c.IsLocal) (file : String) :
    targetId? file c = none := by
  rcases (CallSite.isForeign_iff_not_isLocal c).mpr hlocal with hkind | hkind
  · obtain ⟨i, _, hmodule⟩ := hc.importQualified hkind
    rw [targetId?, hmodule]
  · obtain ⟨hmodule, htarget⟩ := hc.unresolved hkind
    rw [targetId?, hmodule, htarget]

theorem isLocal_iff_kind_name {c : CallSite} :
    c.IsLocal ↔ c.kind.name = "SelfMethodCall" ∨ c.kind.name = "SameFileCall" := by
  unfold CallSite.IsLocal
  cases c.kind <;> simp [CallKind.name]

theorem callRefers_callRow {f : FileFacts} {c : CallSite} {bound : Import → Prop} (hf : f ∈ r.files)
    (hc : c.Refers f.symbols bound) : r.CallRefers (callRow f.path c) where
  caller := by
    change Document.optional .text (referredId? f.path c.caller) ≠ .null →
      r.HasSymbol (Document.optional .text (referredId? f.path c.caller)) (.text f.path)
        (.text c.caller)
    intro hid
    rcases hc.caller with hmodule | ⟨s, hs, hcaller⟩
    · exact absurd (optional_text_eq_null_iff.mpr (referredId?_eq_none_iff.mpr (Or.inl hmodule))) hid
    · rw [hcaller] at hid ⊢
      exact hasSymbol_of_referredId? hf hs hid
  caller_missing := by
    change Document.optional .text (referredId? f.path c.caller) = .null ↔
      Document.text c.caller = .text moduleScope ∨ Document.text c.caller = .text ""
    rw [optional_text_eq_null_iff, referredId?_eq_none_iff, Document.text.injEq,
      Document.text.injEq]
  target := by
    change Document.optional .text (targetId? f.path c) ≠ .null →
      r.HasSymbol (Document.optional .text (targetId? f.path c)) (.text f.path)
        (Document.optional .text c.targetSymbol)
    intro hid
    by_cases hlocal : c.IsLocal
    · obtain ⟨s, hs, htarget, htargetId⟩ := targetId?_of_isLocal hc hlocal f.path
      rw [htargetId] at hid ⊢
      rw [htarget]
      exact hasSymbol_of_referredId? hf hs hid
    · rw [targetId?_of_not_isLocal hc hlocal] at hid
      exact absurd rfl hid
  target_present := by
    change Document.optional .text (targetId? f.path c) ≠ .null ↔
      (Document.text c.kind.name = .text "SelfMethodCall" ∨
        Document.text c.kind.name = .text "SameFileCall") ∧
        ∃ name, Document.optional .text c.targetSymbol = .text name ∧ name ≠ moduleScope ∧ name ≠ ""
    rw [ne_eq, optional_text_eq_null_iff, Document.text.injEq, Document.text.injEq,
      ← isLocal_iff_kind_name]
    by_cases hlocal : c.IsLocal
    · obtain ⟨s, _, htarget, htargetId⟩ := targetId?_of_isLocal hc hlocal f.path
      rw [htargetId, referredId?_eq_none_iff, htarget, not_or]
      constructor
      · intro hname
        exact ⟨hlocal, s.qualifiedName, rfl, hname⟩
      · rintro ⟨_, name, heq, hname⟩
        cases heq
        exact hname
    · rw [targetId?_of_not_isLocal hc hlocal]
      simp [hlocal]

/-- A report on files that refer to their own symbols has tables that do. -/
theorem keysRefer_of_files (h : ∀ f ∈ r.files, f.RefersToOwn) : r.KeysRefer where
  calls := by
    intro row hrow
    rw [rowsNamed_calls, mem_rowsOf] at hrow
    obtain ⟨f, hf, c, hc, rfl⟩ := hrow
    obtain ⟨bound, hrefers⟩ := (h f hf).calls c hc
    exact callRefers_callRow hf hrefers
  endpoints := by
    intro row hrow
    rw [rowsNamed_endpoints, mem_rowsOf] at hrow
    obtain ⟨f, hf, e, he, rfl⟩ := hrow
    obtain ⟨s, hs, hhandler⟩ := (h f hf).endpoints e he
    change r.HasSymbol (.text (symbolId f.path e.handler)) (.text f.path) (.text e.handler)
    rw [hhandler]
    exact hasSymbol_of_mem hf hs

/-- Calls and endpoints refer to symbols. Whatever trees are analysed, whichever stages break down and in
whatever order the outcomes are merged, there is a report, and every identifier of a caller, of a target
or of a handler in its tables is that of a row of the symbols, with the same file and with the name that
is referred to. Exactly the module and a caller without a name have none; exactly the calls of a
definition of the file have one for their target, unless its name is empty or that of the module. -/
theorem table_keys_refer (outcomes : List FileOutcome) (skipped : List String) (cancelled : Bool)
    (h : ∀ o ∈ outcomes, ∃ config faults file src tree misfits,
      analyzeFile config faults file src tree misfits = .ok o) :
    ∃ r, merge (outcomes.map .file) skipped cancelled = .ok r ∧ r.KeysRefer := by
  refine ⟨_, merge_map_file outcomes skipped cancelled, keysRefer_of_files ?_⟩
  obtain ⟨found, hfound, hfiles⟩ := exists_found outcomes skipped cancelled
  rw [hfiles, List.forall_mem_map]
  intro f hf
  obtain ⟨o, ho, hfacts⟩ := List.mem_filterMap.mp (hfound.mem_iff.mp hf)
  obtain ⟨config, faults, file, src, tree, misfits, hanalyze⟩ := h o ho
  cases o with
  | failure d => exact absurd hfacts (by simp [FileOutcome.facts?])
  | facts g =>
      cases hfacts
      exact (refersToOwn_of_analyzeFile hanalyze).sorted

/-- The tree of a function `f` that calls itself, with a route. -/
def routedFunction : Node :=
  .node { kind := "module", start := 0, stop := 26 }
    [.node { kind := "decorated_definition", start := 0, stop := 25 }
      [.node { kind := "decorator", start := 0, stop := 12 }
        [.node { kind := "call", start := 1, stop := 12 }
          [.node { kind := "attribute", start := 1, stop := 6, field := some "function" }
            [.node { kind := "identifier", start := 1, stop := 2, field := some "object" } [],
             .node { kind := "identifier", start := 3, stop := 6, field := some "attribute" } []],
           .node { kind := "argument_list", start := 6, stop := 12, field := some "arguments" }
            [.node { kind := "string", start := 7, stop := 11 }
              [.node { kind := "string_start", start := 7, stop := 8 } [],
               .node { kind := "string_content", start := 8, stop := 10 } [],
               .node { kind := "string_end", start := 10, stop := 11 } []]]]],
       .node { kind := "function_definition", start := 13, stop := 25, field := some "definition" }
        [.node { kind := "identifier", start := 17, stop := 18, field := some "name" } [],
         .node { kind := "parameters", start := 18, stop := 20, field := some "parameters" } [],
         .node { kind := "block", start := 22, stop := 25, field := some "body" }
          [.node { kind := "expression_statement", start := 22, stop := 25 }
            [.node { kind := "call", start := 22, stop := 25 }
              [.node { kind := "identifier", start := 22, stop := 23, field := some "function" } [],
               .node { kind := "argument_list", start := 23, stop := 25
                       field := some "arguments" } []]]]]]]

/-- The function is its own caller and target, and the handler of its route. -/
theorem table_keys_refer_route :
    let src : Source := ⟨"@a.get('/u')\ndef f(): f()\n".toUTF8.toList⟩
    let o := FileOutcome.facts (moduleFacts {} Faults.none "a.py" "a" src routedFunction)
    analyzeFile {} Faults.none "a.py" src (some routedFunction) = .ok o ∧
      (fileCalls Faults.none "a.py" src routedFunction).map
        (fun c => (c.1.caller, c.1.kind, c.1.targetSymbol)) =
          [(moduleScope, .unresolved, none), ("f", .sameFile, some "f")] ∧
      (endpointsOf {} none (fileSymbols Faults.none "a.py" src routedFunction)).map
        (fun e => (e.method, e.path, e.handler)) = [("GET", "/u", "f")] ∧
      ∃ r, merge [.file o] [] false = .ok r ∧ r.KeysRefer := by
  intro src o
  have hanalyze : analyzeFile {} Faults.none "a.py" src (some routedFunction) = .ok o := rfl
  refine ⟨hanalyze, by decide +kernel, by decide +kernel, table_keys_refer [o] [] false ?_⟩
  intro o' ho
  rw [List.mem_singleton.mp ho]
  exact ⟨_, _, _, _, _, _, hanalyze⟩

end Report

end SourceFacts
