import SourceFacts.Proofs.File.Diagnostics
import SourceFacts.Proofs.File.References

/-!
# Stages that break down

A stage that breaks down costs its own facts and those that rest on them, and leaves one diagnostic.
All other sections and diagnostics are those of a run in which every stage works.
-/

namespace SourceFacts

open Definitions

theorem Stage.name_injective {a b : Stage} (h : a.name = b.name) : a = b := by
  revert h
  cases a <;> cases b <;> decide

theorem Stage.name_ne_parse (stage : Stage) : stage.name ≠ "parse" := by
  cases stage <;> decide

theorem Stage.mem_all (stage : Stage) : stage ∈ Stage.all := by
  cases stage <;> decide

/-! ## Diagnostics of stages that break down -/

/-- The diagnostic is of a stage that breaks down. -/
def Faults.concern (faults : Faults) (d : Diagnostic) : Bool :=
  Stage.all.any fun stage => (faults stage).isSome && d.stage == stage.name

section Diagnostics

variable {faults : Faults} {file : String} {stage : Stage}

theorem Faults.concern_eq_true_iff {d : Diagnostic} :
    faults.concern d = true ↔ ∃ stage, (faults stage).isSome = true ∧ d.stage = stage.name := by
  simp [concern, Stage.mem_all]

theorem Faults.concern_of_reports {d : Diagnostic} (hd : d.Reports file stage.name) :
    faults.concern d = (faults stage).isSome := by
  rw [Bool.eq_iff_iff, concern_eq_true_iff]
  constructor
  · rintro ⟨other, hother, hname⟩
    rwa [Stage.name_injective (hd.stage_eq.symm.trans hname)]
  · exact fun h => ⟨stage, h, hd.stage_eq⟩

/-- What a stage that breaks down says. -/
def Stage.failure (stage : Stage) (file message : String) : Diagnostic where
  file
  message := s!"{stage.name} stage failed: {message}"
  stage := stage.name

theorem Faults.diagnostics_eq (faults : Faults) (file : String) :
    faults.diagnostics file =
      Stage.all.filterMap fun stage => (faults stage).map (stage.failure file) := rfl

theorem Faults.filter_diagnostics (h : (faults stage).isSome = true) :
    (faults.diagnostics file).filter (fun d => d.stage == stage.name) =
      ((faults stage).map (stage.failure file)).toList := by
  have hother : ∀ other : Stage, Option.filter (fun d : Diagnostic => d.stage == stage.name)
      ((faults other).map (other.failure file)) =
        if other = stage then (faults stage).map (stage.failure file) else Option.none := by
    intro other
    split
    · rename_i heq
      subst heq
      cases faults other <;> simp [Stage.failure]
    · rename_i hne
      have hname : ¬ other.name = stage.name := fun hname => hne (Stage.name_injective hname)
      cases faults other <;> simp [Stage.failure, hname]
  rw [diagnostics_eq, List.filter_filterMap]
  simp only [hother]
  obtain ⟨message, hm⟩ := Option.isSome_iff_exists.mp h
  rw [hm]
  cases stage <;> rfl

end Diagnostics

/-! ## Sections -/

section Sections

variable {faults : Faults} {file : String} {src : Source} {root : Node}

theorem fileImports_of_none (h : faults .imports = none) :
    fileImports faults file src root = fileImports Faults.none file src root :=
  Faults.run_of_none h _ _

theorem fileDefinitions_of_none (h : faults .symbols = none) :
    fileDefinitions faults file src root = fileDefinitions Faults.none file src root :=
  Faults.run_of_none h _ _

theorem fileSymbols_of_none (h : faults .symbols = none) :
    fileSymbols faults file src root = fileSymbols Faults.none file src root := by
  unfold fileSymbols
  rw [fileDefinitions_of_none h]

theorem fileCalls_of_none (himports : faults .imports = none) (hsymbols : faults .symbols = none)
    (hcalls : faults .calls = none) :
    fileCalls faults file src root = fileCalls Faults.none file src root := by
  have hcontext : fileContext faults file src root = fileContext Faults.none file src root := by
    unfold fileContext
    rw [fileImports_of_none himports, fileDefinitions_of_none hsymbols,
      fileSymbols_of_none hsymbols]
  rw [fileCalls, hcontext, Faults.run_of_none hcalls]
  rfl

theorem filter_fileImports_diagnostics :
    (fileImports faults file src root).diagnostics.filter (fun d => !faults.concern d) =
      (fileImports Faults.none file src root).diagnostics.filter fun d => !faults.concern d := by
  cases h : faults .imports with
  | none => rw [fileImports_of_none h]
  | some message =>
      have hgone : (fileImports Faults.none file src root).diagnostics.filter
          (fun d => !faults.concern d) = [] := by
        refine List.filter_eq_nil_iff.mpr fun d hd => ?_
        simp [Faults.concern_of_reports (FileImports.reports_ofTree hd), h]
      rw [hgone]
      simp [fileImports, Faults.run, h]

theorem filter_fileDefinitions_diagnostics :
    (fileDefinitions faults file src root).diagnostics.filter (fun d => !faults.concern d) =
      (fileDefinitions Faults.none file src root).diagnostics.filter fun d => !faults.concern d := by
  cases h : faults .symbols with
  | none => rw [fileDefinitions_of_none h]
  | some message =>
      have hgone : (fileDefinitions Faults.none file src root).diagnostics.filter
          (fun d => !faults.concern d) = [] := by
        refine List.filter_eq_nil_iff.mpr fun d hd => ?_
        simp [Faults.concern_of_reports (reports_ofModule hd), h]
      rw [hgone]
      simp [fileDefinitions, Faults.run, h]

end Sections

section File

variable (config : Config) (misfits : Misfits) (faults : Faults) (file module : String)
variable (src : Source) (root : Node)

/-- Where the settings fit, only the stages that break down by themselves say so. -/
theorem moduleFacts_diagnostics :
    (moduleFacts config faults file module src root).diagnostics =
      sortBy Diagnostic.cmp
        (syntaxDiagnostics src file root ++ (fileImports faults file src root).diagnostics ++
          (fileDefinitions faults file src root).diagnostics ++ faults.diagnostics file) := by
  unfold moduleFacts FileFacts.sorted
  dsimp only
  refine congrArg (sortBy Diagnostic.cmp) (congrArg₂ (· ++ ·) rfl ?_)
  refine congrArg (Faults.diagnostics · file) ?_
  refine Eq.trans (congrArg faults.orMisfits (funext fun stage => ?_)) faults.orMisfits_none
  cases stage <;> simp

theorem moduleFacts_imports :
    (moduleFacts config faults file module src root misfits).imports =
      sortBy (compareOn (·.line.rank)) (fileImports faults file src root).imports := rfl

theorem moduleFacts_moduleVariables :
    (moduleFacts config faults file module src root misfits).moduleVariables =
      sortBy (compareOn (·.line.rank)) (fileDefinitions faults file src root).moduleVariables := rfl

theorem moduleFacts_docstring :
    (moduleFacts config faults file module src root misfits).docstring =
      faults.run .symbols (root.docstring? src) none := rfl

theorem moduleFacts_isTestFile :
    (moduleFacts config faults file module src root).isTestFile =
      faults.run .tests (isTestFile config file) false := rfl

theorem moduleFacts_routerMounts :
    (moduleFacts config faults file module src root).routerMounts =
      sortBy (compareOn (·.line.rank))
        (faults.run .endpoints
          (routerMountsOf src config (fileImports faults file src root).moduleMap.framework? root)
          []) := by
  unfold moduleFacts FileFacts.sorted
  simp only [endpointsMisfit?_none]
  rfl

end File

/-! ## The facts that are left -/

/-- What is left of the facts of a file where some stages break down: in place of the diagnostics of
each such stage there is a single one, and the sections that rest on none of them are whole. -/
structure FileFacts.LeftBy (faults : Faults) (f whole : FileFacts) : Prop where
  path : f.path = whole.path
  module : f.module = whole.module
  contentHash : f.contentHash = whole.contentHash
  failed : ∀ stage message, faults stage = some message →
    f.diagnostics.filter (fun d => d.stage == stage.name) =
      [{ file := f.path
         message := stage.name ++ " stage failed: " ++ message
         stage := stage.name }]
  remaining : f.diagnostics.filter (fun d => !faults.concern d) =
    whole.diagnostics.filter fun d => !faults.concern d
  imports : faults .imports = none → f.imports = whole.imports
  symbols : faults .symbols = none → f.symbols = whole.symbols
  moduleVariables : faults .symbols = none → f.moduleVariables = whole.moduleVariables
  docstring : faults .symbols = none → f.docstring = whole.docstring
  calls : faults .imports = none → faults .symbols = none → faults .calls = none →
    f.calls = whole.calls
  endpoints : faults .imports = none → faults .symbols = none → faults .endpoints = none →
    f.endpoints = whole.endpoints
  routerMounts : faults .imports = none → faults .endpoints = none →
    f.routerMounts = whole.routerMounts
  clientCalls : faults .imports = none → faults .symbols = none → faults .calls = none →
    faults .clientCalls = none → f.clientCalls = whole.clientCalls
  protocols : faults .symbols = none → faults .protocols = none → f.protocols = whole.protocols
  implementers : faults .symbols = none → faults .protocols = none →
    f.implementers = whole.implementers
  tests : faults .symbols = none → faults .tests = none → f.tests = whole.tests
  isTestFile : faults .tests = none → f.isTestFile = whole.isTestFile

section Left

variable (config : Config) (faults : Faults) (file module : String) (src : Source) (root : Node)

theorem moduleFacts_failed {stage : Stage} {message : String} (h : faults stage = some message) :
    (moduleFacts config faults file module src root).diagnostics.filter
        (fun d => d.stage == stage.name) = [stage.failure file message] := by
  have hsyntax : (syntaxDiagnostics src file root).filter (fun d => d.stage == stage.name) = [] := by
    refine List.filter_eq_nil_iff.mpr fun d hd => ?_
    rw [(syntaxDiagnostics_reports hd).stage_eq, beq_iff_eq]
    exact stage.name_ne_parse.symm
  -- A stage that breaks down has reported nothing, and no other stage reports in its name.
  have himports : (fileImports faults file src root).diagnostics.filter
      (fun d => d.stage == stage.name) = [] := by
    refine List.filter_eq_nil_iff.mpr fun d hd hstage => ?_
    cases himports : faults .imports with
    | some _ => simp [fileImports, Faults.run, himports] at hd
    | none =>
        rw [fileImports_of_none himports] at hd
        rw [(FileImports.reports_ofTree hd).stage_eq, beq_iff_eq] at hstage
        rw [← Stage.name_injective hstage, himports] at h
        cases h
  have hdefs : (fileDefinitions faults file src root).diagnostics.filter
      (fun d => d.stage == stage.name) = [] := by
    refine List.filter_eq_nil_iff.mpr fun d hd hstage => ?_
    cases hsymbols : faults .symbols with
    | some _ => simp [fileDefinitions, Faults.run, hsymbols] at hd
    | none =>
        rw [fileDefinitions_of_none hsymbols] at hd
        rw [(reports_ofModule hd).stage_eq, beq_iff_eq] at hstage
        rw [← Stage.name_injective hstage, hsymbols] at h
        cases h
  rw [moduleFacts_diagnostics, ← sortBy_filter, List.filter_append, List.filter_append,
    List.filter_append, hsyntax, himports, hdefs, Faults.filter_diagnostics (by simp [h]), h]
  exact sortBy_of_pairwise (List.pairwise_singleton _ _)

theorem moduleFacts_remaining :
    (moduleFacts config faults file module src root).diagnostics.filter
        (fun d => !faults.concern d) =
      (moduleFacts config Faults.none file module src root).diagnostics.filter
        fun d => !faults.concern d := by
  have hfailed : (faults.diagnostics file).filter (fun d => !faults.concern d) = [] := by
    refine List.filter_eq_nil_iff.mpr fun d hd => ?_
    obtain ⟨stage, message, hm, rfl⟩ := Faults.exists_of_mem_diagnostics hd
    rw [Faults.concern_of_reports (Diagnostic.reports_of_file file _ stage.name), hm]
    simp
  have hnone : Faults.none.diagnostics file = [] := rfl
  rw [moduleFacts_diagnostics, moduleFacts_diagnostics, ← sortBy_filter, ← sortBy_filter, hnone]
  simp only [List.filter_append, filter_fileImports_diagnostics, filter_fileDefinitions_diagnostics,
    hfailed, List.filter_nil]

theorem moduleFacts_leftBy :
    (moduleFacts config faults file module src root).LeftBy faults
      (moduleFacts config Faults.none file module src root) where
  path := rfl
  module := rfl
  contentHash := rfl
  failed := fun stage message h => moduleFacts_failed config faults file module src root h
  remaining := moduleFacts_remaining config faults file module src root
  imports := by
    intro h
    rw [moduleFacts_imports, moduleFacts_imports, fileImports_of_none h]
  symbols := by
    intro h
    rw [moduleFacts_symbols, moduleFacts_symbols, fileSymbols_of_none h]
  moduleVariables := by
    intro h
    rw [moduleFacts_moduleVariables, moduleFacts_moduleVariables, fileDefinitions_of_none h]
  docstring := by
    intro h
    rw [moduleFacts_docstring, moduleFacts_docstring, Faults.run_of_none h]
    rfl
  calls := by
    intro himports hsymbols hcalls
    rw [moduleFacts_calls, moduleFacts_calls, fileCalls_of_none himports hsymbols hcalls]
  endpoints := by
    intro himports hsymbols h
    rw [moduleFacts_endpoints, moduleFacts_endpoints, Faults.run_of_none h,
      fileImports_of_none himports, fileSymbols_of_none hsymbols]
    rfl
  routerMounts := by
    intro himports h
    rw [moduleFacts_routerMounts, moduleFacts_routerMounts, Faults.run_of_none h,
      fileImports_of_none himports]
    rfl
  clientCalls := by
    intro himports hsymbols hcalls h
    rw [moduleFacts_clientCalls, moduleFacts_clientCalls, Faults.run_of_none h,
      fileCalls_of_none himports hsymbols hcalls]
    rfl
  protocols := by
    intro hsymbols h
    rw [moduleFacts_protocols, moduleFacts_protocols, Faults.run_of_none h,
      fileSymbols_of_none hsymbols]
    rfl
  implementers := by
    intro hsymbols h
    rw [moduleFacts_implementers, moduleFacts_implementers, Faults.run_of_none h,
      fileSymbols_of_none hsymbols]
    rfl
  tests := by
    intro hsymbols h
    rw [moduleFacts_tests, moduleFacts_tests, Faults.run_of_none h, fileSymbols_of_none hsymbols]
    rfl
  isTestFile := by
    intro h
    rw [moduleFacts_isTestFile, moduleFacts_isTestFile, Faults.run_of_none h]
    rfl

end Left

theorem exists_moduleName {file : String} (h : (Path.parse file).name ≠ "") :
    ∃ module, moduleName file = .ok module := by
  have hname : ¬ (Path.parse file).name.isEmpty = true := by simpa using h
  unfold moduleName Path.moduleName
  rw [if_neg hname]
  dsimp only
  split <;> split <;> exact ⟨_, rfl⟩

/-- The stages of an analysis are isolated from each other. Whichever of them break down, and with
whatever messages, the tree of a module at a path with a name has facts; they hold exactly one
diagnostic for each such stage, all diagnostics of the others, and each section that rests on none of
them as a run gives it in which every stage works. -/
theorem stages_isolated (config : Config) (faults : Faults) (file : String) (src : Source)
    (root : Node) (hkind : root.kind = "module") (hname : (Path.parse file).name ≠ "") :
    ∃ f whole, analyzeFile config faults file src (some root) = .ok (.facts f) ∧
      analyzeFile config Faults.none file src (some root) = .ok (.facts whole) ∧
      f.LeftBy faults whole := by
  obtain ⟨module, hmodule⟩ := exists_moduleName hname
  exact ⟨_, _, analyzeFile_module config {} faults file module src root hkind hmodule,
    analyzeFile_module config {} Faults.none file module src root hkind hmodule,
    moduleFacts_leftBy config faults file module src root⟩

theorem stages_isolated_importedCall :
    let faults : Faults := fun stage => if stage = .endpoints then some "boom" else none
    let src : Source := ⟨"import os\nos.getcwd()\n".toUTF8.toList⟩
    importedCall.kind = "module" ∧ (Path.parse "a.py").name ≠ "" ∧
      ∃ f whole, analyzeFile {} faults "a.py" src (some importedCall) = .ok (.facts f) ∧
        analyzeFile {} Faults.none "a.py" src (some importedCall) = .ok (.facts whole) ∧
        f.LeftBy faults whole ∧ f.calls = whole.calls ∧
        f.diagnostics.filter (fun d => d.stage == "endpoints") =
          [{ file := f.path, message := "endpoints stage failed: boom", stage := "endpoints" }] := by
  intro faults src
  have hname : (Path.parse "a.py").name ≠ "" := by decide
  obtain ⟨f, whole, hf, hwhole, hleft⟩ :=
    stages_isolated {} faults "a.py" src importedCall rfl hname
  exact ⟨rfl, hname, f, whole, hf, hwhole, hleft, hleft.calls rfl rfl rfl,
    hleft.failed .endpoints "boom" rfl⟩

end SourceFacts
