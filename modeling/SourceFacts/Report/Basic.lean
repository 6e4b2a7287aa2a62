import SourceFacts.File.Order

/-!
# Reports

The facts of many files. A report does not depend on the order in which the files were analysed:
files are sorted by path and content, diagnostics by file, line, stage and message, and what was
left out by name.
-/

namespace SourceFacts

/-- The facts of a project. -/
structure Report where
  files : List FileFacts := []
  diagnostics : List Diagnostic := []
  /-- The files that were left out. -/
  skipped : List String := []
  cancelled : Bool := false

/-- Something that is to become part of a report: the outcome of a file, or a value of another
type. -/
inductive Outcome where
  | file (o : FileOutcome)
  | foreign (typeName : String)

/-- Why outcomes do not make a report. -/
inductive MergeError where
  | foreign (typeName : String)

/-- The report of an error. -/
def MergeError.message : MergeError → String
  | .foreign typeName => s!"Cannot aggregate object of type {typeName}"

namespace Report

/-- The outcomes of files, up to the first value that is none. -/
def fileOutcomes : List Outcome → Except MergeError (List FileOutcome)
  | [] => .ok []
  | .file o :: rest => (fileOutcomes rest).map (o :: ·)
  | .foreign typeName :: _ => .error (.foreign typeName)

/-- The facts that an outcome brings. -/
def factsOf : FileOutcome → List FileFacts
  | .facts f => [f.sorted]
  | .failure _ => []

/-- The diagnostics that an outcome brings. -/
def diagnosticsOf : FileOutcome → List Diagnostic
  | .facts f => f.sorted.diagnostics
  | .failure d => [d]

/-- The report on the outcomes of files. -/
def ofFiles (outcomes : List FileOutcome) (skipped : List String) (cancelled : Bool) : Report where
  files :=
    sortBy (thenBy (compareOn (·.path)) (compareOn (·.contentHash))) (outcomes.flatMap factsOf)
  diagnostics := sortBy Diagnostic.cmp (outcomes.flatMap diagnosticsOf)
  skipped := sortedSet skipped
  cancelled

/-- The report on some outcomes. -/
def merge (outcomes : List Outcome) (skipped : List String) (cancelled : Bool) :
    Except MergeError Report :=
  (fileOutcomes outcomes).map fun files => ofFiles files skipped cancelled

/-- What putting the facts of outcomes in order meets, up to the first value that is no outcome. -/
def mergeMisfit? : List Outcome → Option Misfit
  | [] => none
  | .file (.facts f) :: rest => f.orderMisfit? <|> mergeMisfit? rest
  | .file (.failure _) :: rest => mergeMisfit? rest
  | .foreign _ :: _ => none

/-- How many calls there are of each kind. -/
def callCounts (r : Report) : List (CallKind × Nat) :=
  CallKind.all.map fun kind =>
    (kind, (r.files.flatMap (·.calls)).countP fun c => decide (c.kind = kind))

end Report

end SourceFacts
