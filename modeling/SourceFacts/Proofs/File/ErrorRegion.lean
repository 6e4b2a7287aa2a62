import Mathlib.Data.Option.Basic
import SourceFacts.Proofs.File.Diagnostics
import SourceFacts.Proofs.Syntax.Address

/-!
# Regions with errors

A region with an error is a node that is marked as one, or that was put in where the source lacks
something, and that lies in no other error. The first regions are reported one by one; the others are
counted.
-/

namespace SourceFacts

/-! ## Walks and the nodes above -/

namespace Node

theorem suffix_of_mem_visits {n : Node} {above : List Node} {place : Node × List Node}
    (h : place ∈ n.visits above) : above <:+ place.2 := by
  induction n using inductionOnChildren generalizing above with
  | step n ih =>
      rw [visits_eq] at h
      rcases List.mem_cons.mp h with rfl | h
      · exact List.suffix_rfl
      · obtain ⟨c, hc, hplace⟩ := List.mem_flatMap.mp h
        exact (List.suffix_cons n above).trans (ih c hc hplace)

/-- Below a node that is cut off nothing is met. -/
theorem filter_visits_of_cut {cut : Node → Bool} {n a : Node} {above : List Node} (ha : a ∈ above)
    (hcut : cut a = true) : (n.visits above).filter (fun place => place.2.all (!cut ·)) = [] := by
  refine List.filter_eq_nil_iff.mpr fun place hplace hall => ?_
  have hnot := List.all_eq_true.mp hall a ((suffix_of_mem_visits hplace).subset ha)
  rw [hcut] at hnot
  exact absurd hnot (by decide)

/-- A walk below the start meets the nodes with nothing cut off above them. -/
theorem walkBelow_eq_filter_visits {cut : Node → Bool} {above : List Node}
    (habove : above.all (!cut ·) = true) (n : Node) :
    walkBelow cut n = ((n.visits above).filter fun place => place.2.all (!cut ·)).map (·.1) := by
  induction n using inductionOnChildren generalizing above with
  | step n ih =>
      rw [visits_eq, List.filter_cons_of_pos (by simpa using habove), List.map_cons,
        List.filter_flatMap, List.map_flatMap]
      cases hcut : cut n with
      | true =>
          have hnone : ∀ c ∈ n.children, ((c.visits (n :: above)).filter
              fun place => place.2.all (!cut ·)).map (·.1) = [] := by
            intro c _
            rw [filter_visits_of_cut List.mem_cons_self hcut, List.map_nil]
          rw [List.flatMap_congr hnone]
          cases n with
          | node l cs => simp [walkBelow, hcut]
      | false =>
          rw [walkBelow_of_not_cut cut n hcut, walk, walkAll_eq_flatMap]
          exact congrArg (n :: ·) (List.flatMap_congr fun c hc => ih c hc (by simp [hcut, habove]))

end Node

/-! ## Regions -/

namespace Node

/-- The node is an error, or was put in where the source lacks something. -/
def isFault (n : Node) : Bool :=
  n.kind == "ERROR" || n.label.isMissing

/-- The regions with errors in pre-order: the faults that lie in no error. -/
def errorRegions (root : Node) : List Node :=
  ((root.visits []).filter fun place =>
    place.1.isFault && place.2.all fun a => a.kind != "ERROR").map (·.1)

/-- What is reported of a region. -/
def regionReport (src : Source) (file : String) (n : Node) : Diagnostic where
  file
  message := if n.label.isMissing then s!"missing '{n.kind}'" else "syntax error"
  line := some (src.line n)
  stage := "parse"

theorem syntaxProblem?_eq (src : Source) (file : String) (n : Node) :
    n.syntaxProblem? src file = if n.isFault then some (n.regionReport src file) else none := by
  unfold syntaxProblem? isFault regionReport
  cases n.label.isMissing <;> cases n.kind == "ERROR" <;> rfl

/-- A walk that does not go into errors meets all regions and no other fault. -/
theorem filter_walk_isFault {root : Node} (hroot : root.kind = "module") :
    (root.walk fun n => n.kind == "ERROR").filter isFault = root.errorRegions := by
  have hnot : (root.kind == "ERROR") = false := by
    rw [hroot]
    rfl
  have hwalk := @walkBelow_eq_filter_visits (fun n => n.kind == "ERROR") [] rfl root
  rw [walkBelow_of_not_cut _ root hnot] at hwalk
  rw [hwalk, errorRegions, List.filter_map, List.filter_filter]
  rfl

end Node

theorem filterMap_syntaxProblem? (src : Source) (file : String) (ns : List Node) :
    ns.filterMap (Node.syntaxProblem? src file) =
      (ns.filter Node.isFault).map (Node.regionReport src file) := by
  induction ns with
  | nil => rfl
  | cons n ns ih =>
      cases h : n.isFault with
      | true =>
          rw [List.filterMap_cons_some (by rw [Node.syntaxProblem?_eq, h]; rfl), ih,
            List.filter_cons_of_pos h, List.map_cons]
      | false =>
          rw [List.filterMap_cons_none (by rw [Node.syntaxProblem?_eq, h]; rfl), ih,
            List.filter_cons_of_neg (by simp [h])]

/-- The first regions are reported, the others counted. -/
theorem syntaxDiagnostics_eq (src : Source) (file : String) {root : Node} (hroot : root.kind = "module")
    (herror : root.label.hasError = true) :
    syntaxDiagnostics src file root =
      (root.errorRegions.take 20).map (Node.regionReport src file) ++
        if root.errorRegions.drop 20 = [] then []
        else
          [{ file
             message := s!"{(root.errorRegions.drop 20).length} more syntax errors not reported"
             stage := "parse" }] := by
  rw [syntaxDiagnostics, if_pos herror, filterMap_syntaxProblem?, Node.filter_walk_isFault hroot]
  dsimp only [maxSyntaxDiagnostics]
  rw [List.length_map, List.length_drop, ← List.map_take]
  refine congrArg (_ ++ ·) (if_congr ?_ rfl rfl)
  rw [List.drop_eq_nil_iff]
  omega

/-! ## Diagnostics of a file -/

section File

variable {file : String} {ds : List Diagnostic}

theorem filter_stage_of_reports (h : ∀ d ∈ ds, d.Reports file "parse") :
    ds.filter (fun d => d.stage == "parse") = ds :=
  List.filter_eq_self.mpr fun d hd => beq_iff_eq.mpr (h d hd).stage_eq

theorem filter_stage_eq_nil (h : ∀ d ∈ ds, ∃ stage : Stage, d.Reports file stage.name) :
    ds.filter (fun d => d.stage == "parse") = [] := by
  refine List.filter_eq_nil_iff.mpr fun d hd hparse => ?_
  obtain ⟨stage, hstage⟩ := h d hd
  rw [hstage.stage_eq] at hparse
  cases stage <;> exact absurd hparse (by decide)

/-- The diagnostics of a file that are about its syntax are those of its tree. -/
theorem filter_stage_moduleFacts (config : Config) (faults : Faults) (file module : String)
    (src : Source) (root : Node) (misfits : Misfits) :
    ((moduleFacts config faults file module src root misfits).diagnostics.filter
      fun d => d.stage == "parse").Perm (syntaxDiagnostics src file root) := by
  have himports : ∀ d ∈ (faults.run .imports (FileImports.ofTree src file root) {}).diagnostics,
      ∃ stage : Stage, d.Reports file stage.name := by
    intro d
    refine Faults.run_induction (P := fun r : FileImports => d ∈ r.diagnostics → _) ?_ ?_
    · exact fun hd => ⟨.imports, FileImports.reports_ofTree hd⟩
    · exact fun hd => absurd hd List.not_mem_nil
  have hdefs : ∀ d ∈ (faults.run .symbols (Definitions.ofModule src file root) {}).diagnostics,
      ∃ stage : Stage, d.Reports file stage.name := by
    intro d
    refine Faults.run_induction (P := fun r : Definitions => d ∈ r.diagnostics → _) ?_ ?_
    · exact fun hd => ⟨.symbols, Definitions.reports_ofModule hd⟩
    · exact fun hd => absurd hd List.not_mem_nil
  have hfaults : ∀ (faults : Faults), ∀ d ∈ faults.diagnostics file,
      ∃ stage : Stage, d.Reports file stage.name := by
    intro faults d hd
    obtain ⟨stage, message, _, rfl⟩ := Faults.exists_of_mem_diagnostics hd
    exact ⟨stage, Diagnostic.reports_of_file file _ _⟩
  refine ((sortBy_perm _ _).filter _).trans (List.Perm.of_eq ?_)
  rw [List.filter_append, List.filter_append, List.filter_append,
    filter_stage_of_reports fun d => syntaxDiagnostics_reports, filter_stage_eq_nil himports,
    filter_stage_eq_nil hdefs, filter_stage_eq_nil (hfaults _), List.append_nil, List.append_nil,
    List.append_nil]

end File

/-- Every region with an error is accounted for. In a module that holds an error the regions are split
in two: the first of them, at most twenty, are reported in order, each on its line and a node that was
put in with its kind; the number of the others, if there are any, is told once. Nothing is told of a module
that holds no error. What the analysis of the file says about its syntax is this and nothing else. -/
theorem error_regions_accounted (src : Source) (file : String) (root : Node)
    (hroot : root.kind = "module") :
    (root.label.hasError = false → syntaxDiagnostics src file root = []) ∧
    (root.label.hasError = true → ∃ reported counted,
      root.errorRegions = reported ++ counted ∧
      reported.length = min root.errorRegions.length 20 ∧
      reported.length + counted.length = root.errorRegions.length ∧
      syntaxDiagnostics src file root =
        reported.map (fun n =>
          { file
            message := if n.label.isMissing then s!"missing '{n.kind}'" else "syntax error"
            line := some (src.line n)
            stage := "parse" }) ++
        if counted = [] then []
        else [{ file, message := s!"{counted.length} more syntax errors not reported", stage := "parse" }]) ∧
    ∀ config faults module misfits,
      ((moduleFacts config faults file module src root misfits).diagnostics.filter
        fun d => d.stage == "parse").Perm (syntaxDiagnostics src file root) := by
  refine ⟨fun herror => by simp [syntaxDiagnostics, herror], fun herror => ?_, fun _ _ _ _ =>
    filter_stage_moduleFacts ..⟩
  refine ⟨root.errorRegions.take 20, root.errorRegions.drop 20, (List.take_append_drop ..).symm, ?_, ?_, ?_⟩
  · rw [List.length_take, Nat.min_comm]
  · rw [← List.length_append, List.take_append_drop]
  · exact syntaxDiagnostics_eq src file hroot herror

/-- A module of `count` errors, one with an error inside, and a missing node above an error. -/
def brokenModule (count : Nat) : Node :=
  .node { kind := "module", start := 0, stop := 3, hasError := true }
    (List.replicate count (.node { kind := "ERROR", start := 0, stop := 1 } []) ++
      [.node { kind := "ERROR", start := 1, stop := 2 }
        [.node { kind := "ERROR", start := 1, stop := 2 } []],
       .node { kind := ":", start := 2, stop := 3, isNamed := false, isMissing := true }
        [.node { kind := "ERROR", start := 2, stop := 3 } []]])

theorem error_regions_accounted_broken :
    let src := plainSource "a\n:"
    (brokenModule 18).kind = "module" ∧ (brokenModule 18).label.hasError = true ∧
      (brokenModule 18).errorRegions.length = 21 ∧
      ∃ reported counted, (brokenModule 18).errorRegions = reported ++ counted ∧
        reported.length = 20 ∧ counted.length = 1 ∧
        (syntaxDiagnostics src "m.py" (brokenModule 18)).drop 18 =
          [{ file := "m.py", message := "syntax error", line := some 1, stage := "parse" },
           { file := "m.py", message := "missing ':'", line := some 2, stage := "parse" },
           { file := "m.py", message := "1 more syntax errors not reported", stage := "parse" }] := by
  intro src
  have hlength : (brokenModule 18).errorRegions.length = 21 := by decide +kernel
  obtain ⟨-, hreport, -⟩ := error_regions_accounted src "m.py" (brokenModule 18) rfl
  obtain ⟨reported, counted, hsplit, hreported, hsum, -⟩ := hreport rfl
  rw [hlength] at hreported hsum
  exact ⟨rfl, rfl, hlength, reported, counted, hsplit, hreported, by omega, by decide +kernel⟩

end SourceFacts
