import Mathlib.Data.List.Perm.Basic
import Mathlib.Data.String.Basic
import SourceFacts.Proofs.File.Diagnostics
import SourceFacts.Report.Basic

/-!
# Merging outcomes

A report holds all outcomes that it is made from, in an order that does not depend on theirs.
Merging the files of a report once more gives the report again.
-/

namespace SourceFacts

/-! ## The facts of a file in order -/

/-- The facts are those of another record, with each list stably sorted. -/
structure FileFacts.SortedFrom (g f : FileFacts) : Prop where
  path : g.path = f.path
  module : g.module = f.module
  contentHash : g.contentHash = f.contentHash
  docstring : g.docstring = f.docstring
  isTestFile : g.isTestFile = f.isTestFile
  imports : StablySorted (compareOn (·.line.rank)) g.imports f.imports
  symbols : StablySorted (thenBy (compareOn (·.line.rank)) (compareOn (·.column.rank)))
    g.symbols f.symbols
  moduleVariables : StablySorted (compareOn (·.line.rank)) g.moduleVariables f.moduleVariables
  calls : StablySorted (thenBy (compareOn (·.line.rank)) (compareOn (·.column.rank)))
    g.calls f.calls
  endpoints : StablySorted (thenBy (compareOn (·.line.rank)) (compareOn (·.handler)))
    g.endpoints f.endpoints
  routerMounts : StablySorted (compareOn (·.line.rank)) g.routerMounts f.routerMounts
  clientCalls : StablySorted (thenBy (compareOn (·.line.rank)) (compareOn (·.column.rank)))
    g.clientCalls f.clientCalls
  protocols : StablySorted (compareOn (·.line.rank)) g.protocols f.protocols
  implementers : StablySorted (thenBy (compareOn (·.line.rank)) (compareOn (·.protocol)))
    g.implementers f.implementers
  tests : StablySorted (compareOn (·.line.rank)) g.tests f.tests
  diagnostics : StablySorted Diagnostic.cmp g.diagnostics f.diagnostics

namespace FileFacts

theorem sorted_sortedFrom (f : FileFacts) : f.sorted.SortedFrom f where
  path := rfl
  module := rfl
  contentHash := rfl
  docstring := rfl
  isTestFile := rfl
  imports := stablySorted_sortBy _ _
  symbols := stablySorted_sortBy _ _
  moduleVariables := stablySorted_sortBy _ _
  calls := stablySorted_sortBy _ _
  endpoints := stablySorted_sortBy _ _
  routerMounts := stablySorted_sortBy _ _
  clientCalls := stablySorted_sortBy _ _
  protocols := stablySorted_sortBy _ _
  implementers := stablySorted_sortBy _ _
  tests := stablySorted_sortBy _ _
  diagnostics := stablySorted_sortBy _ _

@[simp]
theorem sorted_sorted (f : FileFacts) : f.sorted.sorted = f.sorted := by
  simp only [sorted, sortBy_sortBy]

end FileFacts

/-! ## Lines that can be compared -/

/-- The lines can be compared: both are known, or neither is and a second key decides. -/
def Comparable (hasSecondKey : Bool) (a b : Coordinate) : Prop :=
  b.isSome = a.isSome ∧ (hasSecondKey = true ∨ b.isSome = true)

theorem Comparable.symm {hasSecondKey : Bool} {a b : Coordinate} (h : Comparable hasSecondKey a b) :
    Comparable hasSecondKey b a :=
  ⟨h.1.symm, h.1 ▸ h.2⟩

theorem lineMisfit?_eq_none_iff {hasSecondKey : Bool} {lines : List Coordinate} :
    lineMisfit? hasSecondKey lines = none ↔ lines.Pairwise (Comparable hasSecondKey) := by
  cases lines with
  | nil => simp [lineMisfit?]
  | cons first rest =>
      have hfirst : lineMisfit? hasSecondKey (first :: rest) = none ↔
          ∀ c ∈ rest, Comparable hasSecondKey first c := by
        cases hasSecondKey <;> simp [lineMisfit?, Comparable, Option.isSome_iff_ne_none]
      rw [hfirst, List.pairwise_cons]
      refine ⟨fun h => ⟨h, ?_⟩, And.left⟩
      -- All lines are compared with the first one, hence with each other.
      refine List.pairwise_of_forall_mem_list fun a ha b hb => ?_
      exact ⟨(h b hb).1.trans (h a ha).1.symm, (h b hb).2⟩

/-- The facts of a file can be put in order by their lines. -/
structure FileFacts.HasOrder (f : FileFacts) : Prop where
  imports : (f.imports.map (·.line)).Pairwise (Comparable false)
  endpoints : (f.endpoints.map (·.line)).Pairwise (Comparable true)
  implementers : (f.implementers.map (·.line)).Pairwise (Comparable true)

namespace FileFacts

theorem orderMisfit?_eq_none_iff {f : FileFacts} : f.orderMisfit? = none ↔ f.HasOrder := by
  unfold orderMisfit?
  simp only [Option.orElse_eq_orElse, Option.orElse_eq_or, Option.or_eq_none_iff,
    lineMisfit?_eq_none_iff]
  exact ⟨fun ⟨h₁, h₂, h₃⟩ => ⟨h₁, h₂, h₃⟩, fun ⟨h₁, h₂, h₃⟩ => ⟨h₁, h₂, h₃⟩⟩

theorem HasOrder.sorted {f : FileFacts} (h : f.HasOrder) : f.sorted.HasOrder where
  imports := h.imports.perm (f.sorted_sortedFrom.imports.perm.map _).symm Comparable.symm
  endpoints := h.endpoints.perm (f.sorted_sortedFrom.endpoints.perm.map _).symm Comparable.symm
  implementers :=
    h.implementers.perm (f.sorted_sortedFrom.implementers.perm.map _).symm Comparable.symm

end FileFacts

/-! ## What outcomes bring -/

namespace FileOutcome

/-- The facts of an outcome. -/
def facts? : FileOutcome → Option FileFacts
  | .facts f => some f
  | .failure _ => none

/-- The diagnostic of a file that gave no facts. -/
def failure? : FileOutcome → Option Diagnostic
  | .facts _ => none
  | .failure d => some d

/-- All diagnostics of an outcome. -/
def diagnostics : FileOutcome → List Diagnostic
  | .facts f => f.diagnostics
  | .failure d => [d]

end FileOutcome

/-- No two files have the same path and the same content. -/
def DistinctFiles (outcomes : List FileOutcome) : Prop :=
  ((outcomes.filterMap FileOutcome.facts?).map fun f => (f.path, f.contentHash)).Nodup

/-- Every diagnostic has no line, or one that is counted from one. -/
def Lined (outcomes : List FileOutcome) : Prop :=
  ∀ o ∈ outcomes, ∀ d ∈ o.diagnostics, d.IsLined

namespace Report

theorem flatMap_factsOf (outcomes : List FileOutcome) :
    outcomes.flatMap factsOf = (outcomes.filterMap FileOutcome.facts?).map FileFacts.sorted := by
  induction outcomes with
  | nil => rfl
  | cons o rest ih =>
      rw [List.flatMap_cons, ih]
      cases o <;> rfl

theorem diagnosticsOf_perm (o : FileOutcome) : (diagnosticsOf o).Perm o.diagnostics := by
  cases o with
  | facts f => exact f.sorted_sortedFrom.diagnostics.perm
  | failure d => exact List.Perm.refl _

theorem flatMap_diagnosticsOf_perm (outcomes : List FileOutcome) :
    (outcomes.flatMap diagnosticsOf).Perm (outcomes.flatMap FileOutcome.diagnostics) :=
  List.Perm.flatMap_left _ fun o _ => diagnosticsOf_perm o

/-- The diagnostics of files with facts and those of the others. -/
theorem flatMap_diagnosticsOf_split (outcomes : List FileOutcome) :
    (outcomes.flatMap diagnosticsOf).Perm
      ((outcomes.flatMap factsOf).flatMap (·.diagnostics) ++
        outcomes.filterMap FileOutcome.failure?) := by
  induction outcomes with
  | nil => exact List.Perm.refl _
  | cons o rest ih =>
      rw [List.flatMap_cons, List.flatMap_cons]
      cases o with
      | facts f =>
          rw [List.flatMap_append, List.append_assoc, List.filterMap_cons_none rfl, factsOf,
            diagnosticsOf, List.flatMap_singleton]
          exact ih.append_left _
      | failure d =>
          have hfailures : (FileOutcome.failure d :: rest).filterMap FileOutcome.failure? =
              d :: rest.filterMap FileOutcome.failure? := rfl
          rw [hfailures]
          exact (ih.cons d).trans List.perm_middle.symm

theorem isLined_of_mem {outcomes : List FileOutcome} (h : Lined outcomes) {d : Diagnostic}
    (hd : d ∈ outcomes.flatMap diagnosticsOf) : d.IsLined := by
  obtain ⟨o, ho, hd⟩ := List.mem_flatMap.mp ((flatMap_diagnosticsOf_perm outcomes).mem_iff.mp hd)
  exact h o ho d hd

/-- Where keys tell files apart, their places do not depend on the order of the outcomes. -/
theorem files_ofFiles_perm {outcomes outcomes' : List FileOutcome} (h : outcomes.Perm outcomes')
    (hdistinct : DistinctFiles outcomes) (skipped skipped' : List String) (cancelled : Bool) :
    (ofFiles outcomes skipped cancelled).files = (ofFiles outcomes' skipped' cancelled).files := by
  refine sortBy_eq_of_perm _ (h.flatMap_right _) ?_
  rw [flatMap_factsOf]
  intro a ha b hb hab
  obtain ⟨f, hf, rfl⟩ := List.mem_map.mp ha
  obtain ⟨g, hg, rfl⟩ := List.mem_map.mp hb
  simp only [thenBy, compareOn, Ordering.then_eq_eq] at hab
  have hpath : f.path = g.path := Std.LawfulEqCmp.eq_of_compare hab.1
  have hhash : f.contentHash = g.contentHash := Std.LawfulEqCmp.eq_of_compare hab.2
  rw [List.inj_on_of_nodup_map hdistinct hf hg (Prod.ext hpath hhash)]

theorem diagnostics_ofFiles_perm {outcomes outcomes' : List FileOutcome}
    (h : (outcomes.flatMap diagnosticsOf).Perm (outcomes'.flatMap diagnosticsOf))
    (hlined : Lined outcomes) (skipped skipped' : List String) (cancelled : Bool) :
    (ofFiles outcomes skipped cancelled).diagnostics =
      (ofFiles outcomes' skipped' cancelled).diagnostics :=
  sortBy_eq_of_perm _ h fun _ ha _ hb hab =>
    Diagnostic.eq_of_cmp_eq (isLined_of_mem hlined ha) (isLined_of_mem hlined hb) hab

theorem ofFiles_perm {outcomes outcomes' : List FileOutcome} (h : outcomes.Perm outcomes')
    (hdistinct : DistinctFiles outcomes) (hlined : Lined outcomes) {skipped skipped' : List String}
    (hskipped : ∀ s, s ∈ skipped ↔ s ∈ skipped') (cancelled : Bool) :
    ofFiles outcomes skipped cancelled = ofFiles outcomes' skipped' cancelled := by
  have hfiles := files_ofFiles_perm h hdistinct skipped skipped' cancelled
  have hdiagnostics :=
    diagnostics_ofFiles_perm (h.flatMap_right _) hlined skipped skipped' cancelled
  have hset : sortedSet skipped = sortedSet skipped' := sortedSet_congr hskipped
  unfold ofFiles at hfiles hdiagnostics ⊢
  rw [hset]
  exact congrArg₂ (Report.mk · · _ _) hfiles hdiagnostics

/-! ## Merging again -/

/-- The outcomes that a report gives back: its files, and the diagnostics of the other files. -/
def outcomesAgain (r : Report) (failures : List Diagnostic) : List FileOutcome :=
  r.files.map .facts ++ failures.map .failure

theorem facts_again (r : Report) (failures : List Diagnostic) :
    (r.outcomesAgain failures).filterMap FileOutcome.facts? = r.files := by
  rw [outcomesAgain, List.filterMap_append, List.filterMap_map, List.filterMap_map]
  have hfacts : r.files.filterMap (FileOutcome.facts? ∘ .facts) = r.files := List.filterMap_some
  have hfailures : failures.filterMap (FileOutcome.facts? ∘ .failure) = [] := by
    rw [List.filterMap_eq_nil_iff]
    exact fun _ _ => rfl
  rw [hfacts, hfailures, List.append_nil]

theorem failures_again (r : Report) (failures : List Diagnostic) :
    (r.outcomesAgain failures).filterMap FileOutcome.failure? = failures := by
  rw [outcomesAgain, List.filterMap_append, List.filterMap_map, List.filterMap_map]
  have hfacts : r.files.filterMap (FileOutcome.failure? ∘ .facts) = [] := by
    rw [List.filterMap_eq_nil_iff]
    exact fun _ _ => rfl
  have hfailures : failures.filterMap (FileOutcome.failure? ∘ .failure) = failures :=
    List.filterMap_some
  rw [hfacts, hfailures, List.nil_append]

theorem map_sorted_files (outcomes : List FileOutcome) (skipped : List String) (cancelled : Bool) :
    (ofFiles outcomes skipped cancelled).files.map FileFacts.sorted =
      (ofFiles outcomes skipped cancelled).files := by
  have hsorted : ∀ f ∈ (ofFiles outcomes skipped cancelled).files, f.sorted = f := by
    intro f hf
    have hf : f ∈ outcomes.flatMap factsOf := mem_sortBy.mp hf
    rw [flatMap_factsOf] at hf
    obtain ⟨g, _, rfl⟩ := List.mem_map.mp hf
    exact g.sorted_sorted
  rw [List.map_congr_left hsorted, List.map_id']

/-- The files of a report and the diagnostics of the other files give the report again. -/
theorem ofFiles_again {outcomes : List FileOutcome} (hlined : Lined outcomes)
    {skipped skipped' : List String} (hskipped : ∀ s, s ∈ skipped ↔ s ∈ skipped')
    (cancelled : Bool) :
    let r := ofFiles outcomes skipped cancelled
    ofFiles (r.outcomesAgain (outcomes.filterMap FileOutcome.failure?)) skipped' cancelled = r := by
  intro r
  have hfacts : (r.outcomesAgain (outcomes.filterMap FileOutcome.failure?)).flatMap factsOf =
      r.files := by
    rw [flatMap_factsOf, facts_again]
    exact map_sorted_files outcomes skipped cancelled
  have hfiles : sortBy (thenBy (compareOn (·.path)) (compareOn (·.contentHash))) r.files =
      r.files := sortBy_sortBy _ _
  -- The diagnostics of the files are in the files of the report, those of the failures come again.
  have hperm : (outcomes.flatMap diagnosticsOf).Perm
      ((r.outcomesAgain (outcomes.filterMap FileOutcome.failure?)).flatMap diagnosticsOf) := by
    refine (flatMap_diagnosticsOf_split outcomes).trans ?_
    refine List.Perm.trans ?_ (flatMap_diagnosticsOf_split _).symm
    rw [hfacts, failures_again]
    exact ((sortBy_perm _ _).flatMap_right _).symm.append_right _
  have hdiagnostics := diagnostics_ofFiles_perm hperm hlined skipped skipped' cancelled
  have hset : sortedSet skipped = sortedSet skipped' := sortedSet_congr hskipped
  unfold ofFiles at hdiagnostics ⊢
  rw [hfacts, hfiles, ← hset]
  exact congrArg (Report.mk r.files · _ _) hdiagnostics.symm

/-! ## Values that are no outcomes -/

theorem fileOutcomes_map_file (outcomes : List FileOutcome) :
    fileOutcomes (outcomes.map .file) = .ok outcomes := by
  induction outcomes with
  | nil => rfl
  | cons o rest ih =>
      rw [List.map_cons, fileOutcomes, ih]
      rfl

theorem merge_map_file (outcomes : List FileOutcome) (skipped : List String) (cancelled : Bool) :
    merge (outcomes.map .file) skipped cancelled = .ok (ofFiles outcomes skipped cancelled) := by
  rw [merge, fileOutcomes_map_file]
  rfl

/-- The first value that is no outcome is the reason why there is no report. -/
theorem fileOutcomes_foreign (before : List FileOutcome) (typeName : String)
    (after : List Outcome) :
    fileOutcomes (before.map .file ++ .foreign typeName :: after) = .error (.foreign typeName) := by
  induction before with
  | nil => rfl
  | cons o rest ih =>
      rw [List.map_cons, List.cons_append, fileOutcomes, ih]
      rfl

theorem exists_first_foreign {outcomes : List Outcome} {typeName : String}
    (h : .foreign typeName ∈ outcomes) :
    ∃ before first after, outcomes = List.map .file before ++ .foreign first :: after := by
  induction outcomes with
  | nil => exact absurd h List.not_mem_nil
  | cons o rest ih =>
      cases o with
      | foreign first => exact ⟨[], first, rest, rfl⟩
      | file o =>
          have hrest : .foreign typeName ∈ rest := by simpa using h
          obtain ⟨before, first, after, rfl⟩ := ih hrest
          exact ⟨o :: before, first, after, rfl⟩

theorem mergeMisfit?_map_file {outcomes : List FileOutcome} :
    mergeMisfit? (outcomes.map .file) = none ↔
      ∀ f ∈ outcomes.filterMap FileOutcome.facts?, f.HasOrder := by
  induction outcomes with
  | nil => simp [mergeMisfit?]
  | cons o rest ih =>
      cases o with
      | facts f =>
          have hfacts : (FileOutcome.facts f :: rest).filterMap FileOutcome.facts? =
              f :: rest.filterMap FileOutcome.facts? := rfl
          rw [List.map_cons, mergeMisfit?, hfacts, List.forall_mem_cons, ← ih,
            ← FileFacts.orderMisfit?_eq_none_iff]
          simp only [Option.orElse_eq_orElse, Option.orElse_eq_or, Option.or_eq_none_iff]
      | failure d => rw [List.map_cons, mergeMisfit?, List.filterMap_cons_none rfl, ih]

theorem mergeMisfit?_foreign (before : List FileOutcome) (typeName : String)
    (after : List Outcome) :
    mergeMisfit? (before.map .file ++ .foreign typeName :: after) =
      mergeMisfit? (before.map .file) := by
  induction before with
  | nil => rfl
  | cons o rest ih => cases o <;> simp only [List.map_cons, List.cons_append, mergeMisfit?, ih]

/-! ## What a report holds -/

/-- The report holds the outcomes: the files with facts, each in order and all of them by path and
content, and every diagnostic; and the paths that were left out, each once and in order. -/
structure Holds (r : Report) (outcomes : List FileOutcome) (skipped : List String)
    (cancelled : Bool) : Prop where
  files : ∃ found : List FileFacts, found.Perm (outcomes.filterMap FileOutcome.facts?) ∧
    List.Forall₂ FileFacts.SortedFrom r.files found
  files_ordered : r.files.Pairwise fun f g =>
    f.path < g.path ∨ f.path = g.path ∧ f.contentHash < g.contentHash
  diagnostics : r.diagnostics.Perm (outcomes.flatMap FileOutcome.diagnostics)
  diagnostics_ordered : r.diagnostics.Pairwise (NotAfter Diagnostic.cmp)
  skipped_iff : ∀ s, s ∈ r.skipped ↔ s ∈ skipped
  skipped_ordered : r.skipped.Pairwise (· < ·)
  cancelled_eq : r.cancelled = cancelled

theorem exists_found (outcomes : List FileOutcome) (skipped : List String) (cancelled : Bool) :
    ∃ found : List FileFacts, found.Perm (outcomes.filterMap FileOutcome.facts?) ∧
      (ofFiles outcomes skipped cancelled).files = found.map FileFacts.sorted := by
  -- Sorting facts keeps the key of a file, so the files can be sorted before their facts.
  let cmp : FileFacts → FileFacts → Ordering :=
    thenBy (compareOn (·.path)) (compareOn (·.contentHash))
  have hsort : (sortBy cmp (outcomes.filterMap FileOutcome.facts?)).map FileFacts.sorted =
      sortBy cmp ((outcomes.filterMap FileOutcome.facts?).map FileFacts.sorted) :=
    map_sortBy _ _ fun _ _ _ _ => rfl
  refine ⟨sortBy cmp (outcomes.filterMap FileOutcome.facts?), sortBy_perm _ _, ?_⟩
  rw [hsort, ← flatMap_factsOf]
  rfl

theorem files_ofFiles_ordered {outcomes : List FileOutcome} (hdistinct : DistinctFiles outcomes)
    (skipped : List String) (cancelled : Bool) :
    (ofFiles outcomes skipped cancelled).files.Pairwise fun f g =>
      f.path < g.path ∨ f.path = g.path ∧ f.contentHash < g.contentHash := by
  obtain ⟨found, hfound, hfiles⟩ := exists_found outcomes skipped cancelled
  have hkeys : ((ofFiles outcomes skipped cancelled).files.map
      fun f => (f.path, f.contentHash)).Nodup := by
    rw [hfiles, List.map_map]
    exact (hfound.map _).nodup_iff.mpr hdistinct
  have hsorted : (ofFiles outcomes skipped cancelled).files.Pairwise
      (NotAfter (thenBy (compareOn (·.path)) (compareOn (·.contentHash)))) := sortBy_pairwise _ _
  refine (hsorted.and (List.pairwise_map.mp hkeys)).imp fun {f g} ⟨hle, hne⟩ => ?_
  have hlex : f.path < g.path ∨ f.path = g.path ∧ f.contentHash ≤ g.contentHash :=
    Prod.Lex.toLex_le_toLex.mp ((notAfter_thenBy_iff (·.path) (·.contentHash) f g).mp hle)
  refine hlex.imp_right fun ⟨hpath, hhash⟩ => ⟨hpath, lt_of_le_of_ne hhash fun heq => ?_⟩
  exact hne (Prod.ext hpath heq)

theorem ofFiles_holds {outcomes : List FileOutcome} (hdistinct : DistinctFiles outcomes)
    (skipped : List String) (cancelled : Bool) :
    (ofFiles outcomes skipped cancelled).Holds outcomes skipped cancelled where
  files := by
    obtain ⟨found, hfound, hfiles⟩ := exists_found outcomes skipped cancelled
    refine ⟨found, hfound, ?_⟩
    rw [hfiles, List.forall₂_map_left_iff, List.forall₂_same]
    exact fun f _ => f.sorted_sortedFrom
  files_ordered := files_ofFiles_ordered hdistinct skipped cancelled
  diagnostics := (sortBy_perm _ _).trans (flatMap_diagnosticsOf_perm outcomes)
  diagnostics_ordered := sortBy_pairwise _ _
  skipped_iff := (sortedSet_spec skipped).1
  skipped_ordered := (sortedSet_spec skipped).2.imp compareOfLessAndEq_eq_lt.mp
  cancelled_eq := rfl

theorem hasOrder_files {outcomes : List FileOutcome}
    (h : ∀ f ∈ outcomes.filterMap FileOutcome.facts?, f.HasOrder) (skipped : List String)
    (cancelled : Bool) : ∀ f ∈ (ofFiles outcomes skipped cancelled).files, f.HasOrder := by
  obtain ⟨found, hfound, hfiles⟩ := exists_found outcomes skipped cancelled
  rw [hfiles, List.forall_mem_map]
  exact fun f hf => (h f (hfound.mem_iff.mp hf)).sorted

/-- Merging outcomes loses nothing and does not depend on their order: the outcomes in any order,
with the paths that were left out in any order and number, give one report, which holds them all.
Merging the files of the report with the diagnostics of the other files gives the report again. A
value that is no outcome leaves no report. -/
theorem merge_unordered :
    (∀ (outcomes : List FileOutcome) (skipped : List String) (cancelled : Bool),
      DistinctFiles outcomes → Lined outcomes →
        ∃ r : Report, r.Holds outcomes skipped cancelled ∧
          ∀ skipped', (∀ s, s ∈ skipped ↔ s ∈ skipped') →
            let again := (r.outcomesAgain (outcomes.filterMap FileOutcome.failure?)).map .file
            (∀ outcomes', outcomes.Perm outcomes' →
              merge (outcomes'.map .file) skipped' cancelled = .ok r ∧
                (mergeMisfit? (outcomes'.map .file) = none ↔
                  ∀ f ∈ outcomes.filterMap FileOutcome.facts?, f.HasOrder)) ∧
            merge again skipped' cancelled = .ok r ∧
            ((∀ f ∈ outcomes.filterMap FileOutcome.facts?, f.HasOrder) →
              mergeMisfit? again = none)) ∧
    ∀ (outcomes : List Outcome) (typeName : String), .foreign typeName ∈ outcomes →
      ∀ (skipped : List String) (cancelled : Bool), ∃ before first after,
        outcomes = List.map .file before ++ .foreign first :: after ∧
        merge outcomes skipped cancelled = .error (.foreign first) ∧
        (mergeMisfit? outcomes = none ↔
          ∀ f ∈ before.filterMap FileOutcome.facts?, f.HasOrder) := by
  constructor
  · intro outcomes skipped cancelled hdistinct hlined
    refine ⟨ofFiles outcomes skipped cancelled, ofFiles_holds hdistinct skipped cancelled, ?_⟩
    intro skipped' hskipped again
    refine ⟨fun outcomes' hperm => ⟨?_, ?_⟩, ?_, fun horder => ?_⟩
    · rw [merge_map_file, ofFiles_perm hperm hdistinct hlined hskipped]
    · rw [mergeMisfit?_map_file]
      simp only [(hperm.filterMap FileOutcome.facts?).mem_iff]
    · rw [merge_map_file, ofFiles_again hlined hskipped]
    · rw [mergeMisfit?_map_file, facts_again]
      exact hasOrder_files horder skipped cancelled
  · intro outcomes typeName hforeign skipped cancelled
    obtain ⟨before, first, after, rfl⟩ := exists_first_foreign hforeign
    refine ⟨before, first, after, rfl, ?_, ?_⟩
    · rw [merge, fileOutcomes_foreign]
      rfl
    · rw [mergeMisfit?_foreign, mergeMisfit?_map_file]

/-- Two files, one with imports out of order and a diagnostic without a line, and a file that could
not be read. -/
def mixedOutcomes : List FileOutcome :=
  [.facts { path := "b.py", module := "b", contentHash := "1"
            imports := [{ localName := "y", originModule := "y", line := some 2 },
              { localName := "x", originModule := "x", line := some 1 }]
            diagnostics := [{ file := "b.py", message := "no name", stage := "symbols" }] },
    .failure { file := "a.py", message := "no text", line := some 1, stage := "parse" },
    .facts { path := "a.py", module := "a", contentHash := "1" }]

theorem merge_unordered_mixed :
    DistinctFiles mixedOutcomes ∧ Lined mixedOutcomes ∧
      (∃ r : Report, r.Holds mixedOutcomes ["d.py", "c.py", "d.py"] true ∧
        merge (mixedOutcomes.reverse.map .file) ["c.py", "d.py"] true = .ok r) ∧
      ∃ before first after,
        mixedOutcomes.map Outcome.file ++ [.foreign "int"] =
          List.map .file before ++ .foreign first :: after ∧
        merge (mixedOutcomes.map .file ++ [.foreign "int"]) [] false = .error (.foreign first) := by
  have hdistinct : DistinctFiles mixedOutcomes := by
    unfold DistinctFiles mixedOutcomes
    decide
  have hlined : Lined mixedOutcomes := by
    simp [Lined, mixedOutcomes, FileOutcome.diagnostics, Diagnostic.IsLined]
  refine ⟨hdistinct, hlined, ?_, ?_⟩
  · obtain ⟨r, hr, hmerge⟩ :=
      merge_unordered.1 mixedOutcomes ["d.py", "c.py", "d.py"] true hdistinct hlined
    have hskipped : ∀ s, s ∈ ["d.py", "c.py", "d.py"] ↔ s ∈ ["c.py", "d.py"] := by
      intro s
      simp only [List.mem_cons, List.not_mem_nil, or_false]
      tauto
    exact ⟨r, hr, ((hmerge _ hskipped).1 _ mixedOutcomes.reverse_perm.symm).1⟩
  · obtain ⟨before, first, after, hfirst, hmerge, -⟩ :=
      merge_unordered.2 (mixedOutcomes.map .file ++ [.foreign "int"]) "int" (by simp) [] false
    exact ⟨before, first, after, hfirst, hmerge⟩

end Report

end SourceFacts
