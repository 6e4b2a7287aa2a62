import SourceFacts.Proofs.File.Parts
import SourceFacts.Proofs.Order

/-!
# Where diagnostics come from

Every diagnostic of a file is about that file, and of the stage that reports it. Its line, if it has
one, is the line of a node.
-/

namespace SourceFacts

/-- The diagnostic has no line, or one that is counted from one. -/
def Diagnostic.IsLined (d : Diagnostic) : Prop :=
  ∀ line, d.line = some line → 1 ≤ line

instance Diagnostic.transCmp_cmp : Std.TransCmp Diagnostic.cmp := by
  unfold Diagnostic.cmp
  infer_instance

theorem Diagnostic.IsLined.line_eq {a b : Diagnostic} (ha : a.IsLined) (hb : b.IsLined)
    (h : a.line.rank = b.line.rank) : a.line = b.line := by
  cases hla : a.line with
  | none =>
      cases hlb : b.line with
      | none => rfl
      | some line =>
          have hline := hb line hlb
          rw [hla, hlb, Coordinate.rank_none, Coordinate.rank_some] at h
          omega
  | some line =>
      have hline := ha line hla
      cases hlb : b.line with
      | none =>
          rw [hla, hlb, Coordinate.rank_none, Coordinate.rank_some] at h
          omega
      | some line' =>
          rw [hla, hlb, Coordinate.rank_some, Coordinate.rank_some] at h
          rw [h]

/-- Diagnostics with proper lines are told apart by the order. -/
theorem Diagnostic.eq_of_cmp_eq {a b : Diagnostic} (ha : a.IsLined) (hb : b.IsLined)
    (h : Diagnostic.cmp a b = .eq) : a = b := by
  simp only [Diagnostic.cmp, thenBy, Ordering.then_eq_eq, compareOn] at h
  obtain ⟨hfile, hline, hstage, hmessage⟩ := h
  have hline := ha.line_eq hb (Std.LawfulEqCmp.eq_of_compare hline)
  have hfile := Std.LawfulEqCmp.eq_of_compare hfile
  have hstage := Std.LawfulEqCmp.eq_of_compare hstage
  have hmessage := Std.LawfulEqCmp.eq_of_compare hmessage
  cases a
  cases b
  simp_all

/-- The diagnostic is about the file and of the stage. -/
structure Diagnostic.Reports (file stage : String) (d : Diagnostic) : Prop where
  file_eq : d.file = file
  stage_eq : d.stage = stage
  isLined : d.IsLined

theorem Source.one_le_line (src : Source) (n : Node) : 1 ≤ src.line n :=
  Nat.le_add_left 1 _

theorem Diagnostic.reports_of_node (src : Source) (n : Node) (file message stage : String) :
    Diagnostic.Reports file stage { file, message, line := some (src.line n), stage } where
  file_eq := rfl
  stage_eq := rfl
  isLined := by
    rintro line ⟨⟩
    exact_mod_cast src.one_le_line n

theorem Diagnostic.reports_of_file (file message stage : String) :
    Diagnostic.Reports file stage { file, message, stage } where
  file_eq := rfl
  stage_eq := rfl
  isLined := by
    rintro line ⟨⟩

/-! ## Syntax -/

theorem Node.syntaxProblem?_reports {src : Source} {file : String} {n : Node} {d : Diagnostic}
    (h : n.syntaxProblem? src file = some d) : d.Reports file "parse" := by
  unfold syntaxProblem? at h
  split at h
  · cases h
    exact Diagnostic.reports_of_node src n file _ "parse"
  · split at h
    · cases h
      exact Diagnostic.reports_of_node src n file _ "parse"
    · cases h

theorem syntaxDiagnostics_reports {src : Source} {file : String} {root : Node} {d : Diagnostic}
    (h : d ∈ syntaxDiagnostics src file root) : d.Reports file "parse" := by
  unfold syntaxDiagnostics at h
  split at h
  · rcases List.mem_append.mp h with h | h
    · obtain ⟨n, _, hn⟩ := List.mem_filterMap.mp (List.mem_of_mem_take h)
      exact Node.syntaxProblem?_reports hn
    · split at h
      · exact absurd h List.not_mem_nil
      · rw [List.mem_singleton.mp h]
        exact Diagnostic.reports_of_file file _ "parse"
  · exact absurd h List.not_mem_nil

/-! ## Imports -/

namespace ImportReading

variable {src : Source} {file : String}

theorem reports_ofNames {statement : Node} {module : Option String} {empty : String}
    {d : Diagnostic} (h : d ∈ (ofNames src file statement module empty).diagnostics) :
    d.Reports file Stage.imports.name := by
  rcases List.mem_append.mp h with h | h
  · obtain ⟨_, _, rfl⟩ := List.mem_map.mp h
    exact Diagnostic.reports_of_node src statement file _ _
  · split at h
    · rw [List.mem_singleton.mp h]
      exact Diagnostic.reports_of_node src statement file _ _
    · exact absurd h List.not_mem_nil

theorem reports_ofStatement {statement : Node} {d : Diagnostic}
    (h : d ∈ (ofStatement src file statement).diagnostics) :
    d.Reports file Stage.imports.name := by
  unfold ofStatement at h
  split at h
  · rw [List.mem_singleton.mp h]
    exact Diagnostic.reports_of_node src statement file _ _
  · split at h
    · exact reports_ofNames h
    · split at h
      · rw [List.mem_singleton.mp h]
        exact Diagnostic.reports_of_node src statement file _ _
      · dsimp only at h
        split at h
        · exact absurd h List.not_mem_nil
        · exact reports_ofNames h

end ImportReading

theorem FileImports.reports_ofTree {src : Source} {file : String} {root : Node} {d : Diagnostic}
    (h : d ∈ (FileImports.ofTree src file root).diagnostics) :
    d.Reports file Stage.imports.name := by
  obtain ⟨r, hr, hd⟩ := List.mem_flatMap.mp h
  have hstatement : ∃ statement, ImportReading.ofStatement src file statement = r := by
    rcases List.mem_append.mp hr with hr | hr
    · obtain ⟨statement, _, hst⟩ := List.mem_map.mp hr
      exact ⟨statement, hst⟩
    · obtain ⟨inner, hinner, hr⟩ := List.mem_flatMap.mp hr
      obtain ⟨function, _, hf⟩ := List.mem_filterMap.mp hinner
      obtain ⟨body, _, rfl⟩ := Option.map_eq_some_iff.mp hf
      obtain ⟨statement, _, hst⟩ := List.mem_map.mp hr
      exact ⟨statement, hst⟩
  obtain ⟨statement, rfl⟩ := hstatement
  exact ImportReading.reports_ofStatement hd

/-! ## Definitions -/

namespace Definitions

variable {src : Source} {file : String}

/-- A property of what statements define that all ways to put such together keep. -/
structure Kept (src : Source) (file : String) (P : Definitions → Prop) : Prop where
  empty : P {}
  append : ∀ {a b : Definitions}, P a → P b → P (a ++ b)
  problem : ∀ n message, P (problem src file n message)
  moduleVariable : ∀ n, P (moduleVariable src n)
  define : ∀ {parent decorators n} {inside : Symbol → Definitions}, (∀ s, P (inside s)) →
    P (define src file parent decorators n inside)

variable {P : Definitions → Prop}

mutual

theorem Kept.ofStatement (h : Kept src file P) (parent : Option Symbol) (lenient : Bool) :
    (n : Node) → P (ofStatement src file parent lenient n)
  | .node l cs => by
      rw [Definitions.ofStatement]
      split
      · exact h.define fun s => h.ofBody s cs
      split
      · exact h.ofDecorated parent _ cs
      split
      · exact h.ofClauses parent cs
      split
      · split
        · exact h.moduleVariable _
        · exact h.empty
      split
      · exact h.ofStatements parent true cs
      split
      · exact h.empty
      · exact h.problem _ _
termination_by structural n => n

theorem Kept.ofStatements (h : Kept src file P) (parent : Option Symbol) (lenient : Bool) :
    (ns : List Node) → P (ofStatements src file parent lenient ns)
  | [] => by
      rw [Definitions.ofStatements]
      exact h.empty
  | n :: ns => by
      rw [Definitions.ofStatements]
      refine h.append ?_ (h.ofStatements parent lenient ns)
      split
      · exact h.ofStatement parent lenient n
      · exact h.empty
termination_by structural ns => ns

theorem Kept.ofBlock (h : Kept src file P) (parent : Option Symbol) :
    (n : Node) → P (ofBlock src file parent n)
  | .node l cs => by
      rw [Definitions.ofBlock]
      exact h.ofStatements parent false cs
termination_by structural n => n

theorem Kept.ofBody (h : Kept src file P) (parent : Symbol) :
    (ns : List Node) → P (ofBody src file parent ns)
  | [] => by
      rw [Definitions.ofBody]
      exact h.empty
  | n :: ns => by
      rw [Definitions.ofBody]
      split
      · exact h.ofBlock (some parent) n
      · exact h.ofBody parent ns
termination_by structural ns => ns

theorem Kept.ofClauses (h : Kept src file P) (parent : Option Symbol) :
    (ns : List Node) → P (ofClauses src file parent ns)
  | [] => by
      rw [Definitions.ofClauses]
      exact h.empty
  | n :: ns => by
      rw [Definitions.ofClauses]
      refine h.append ?_ (h.ofClauses parent ns)
      split
      · split
        · exact h.ofBlock parent n
        · split
          · exact h.ofStatement parent false n
          · exact h.empty
      · exact h.empty
termination_by structural ns => ns

theorem Kept.ofDecorated (h : Kept src file P) (parent : Option Symbol) (whole : Node) :
    (ns : List Node) → P (ofDecorated src file parent whole ns)
  | [] => by
      rw [Definitions.ofDecorated]
      exact h.problem _ _
  | n :: ns => by
      rw [Definitions.ofDecorated]
      split
      · exact h.ofDefinition parent _ n
      · exact h.ofDecorated parent whole ns
termination_by structural ns => ns

theorem Kept.ofDefinition (h : Kept src file P) (parent : Option Symbol)
    (decorators : List Decorator) : (n : Node) → P (ofDefinition src file parent decorators n)
  | .node l cs => by
      rw [Definitions.ofDefinition]
      split
      · exact h.define fun s => h.ofBody s cs
      · exact h.empty
termination_by structural n => n

end

theorem kept_reports : Kept src file fun defs =>
    ∀ d ∈ defs.diagnostics, d.Reports file Stage.symbols.name where
  empty := fun d hd => absurd hd List.not_mem_nil
  append := fun ha hb d hd => (List.mem_append.mp hd).elim (ha d) (hb d)
  problem := by
    intro n message d hd
    rw [List.mem_singleton.mp hd]
    exact Diagnostic.reports_of_node src n file message _
  moduleVariable := by
    intro n d hd
    rw [diagnostics_moduleVariable] at hd
    exact absurd hd List.not_mem_nil
  define := by
    intro parent decorators n inside hinside d hd
    unfold Definitions.define at hd
    dsimp only at hd
    split at hd
    · rw [List.mem_singleton.mp hd]
      exact Diagnostic.reports_of_node src n file _ _
    · exact hinside _ d hd

theorem reports_ofModule {root : Node} {d : Diagnostic}
    (h : d ∈ (ofModule src file root).diagnostics) : d.Reports file Stage.symbols.name :=
  kept_reports.ofStatements none false root.children d h

end Definitions

/-! ## Stages that break down -/

theorem Faults.exists_of_mem_diagnostics {faults : Faults} {file : String} {d : Diagnostic}
    (h : d ∈ faults.diagnostics file) :
    ∃ stage message, faults stage = some message ∧
      d = { file, message := s!"{stage.name} stage failed: {message}", stage := stage.name } := by
  obtain ⟨stage, _, hstage⟩ := List.mem_filterMap.mp h
  obtain ⟨message, hm, rfl⟩ := Option.map_eq_some_iff.mp hstage
  exact ⟨stage, message, hm, rfl⟩

/-! ## Files -/

end SourceFacts
