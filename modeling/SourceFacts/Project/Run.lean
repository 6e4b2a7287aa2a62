import SourceFacts.Project.Discovery
import SourceFacts.Project.Reading
import SourceFacts.Report.Basic

/-!
# Runs over many files

Each file is a job under the name by which it is shown. The jobs are independent, so a run takes
them one after the other. After an interruption the jobs that are left are skipped.
-/

namespace SourceFacts

/-- How the analysis of one file ends. -/
inductive Attempt where
  | finished (o : FileOutcome)
  | failed (message : String)
  | interrupted

/-- What a run has done. -/
structure Run where
  outcomes : List FileOutcome := []
  skipped : List String := []
  cancelled : Bool := false

/-- Why a run cannot start. -/
inductive RunError where
  | noWorkers
  | disk (e : DiskError)
  | misfit (m : Misfit)

/-- The report of an error. -/
def RunError.message : RunError → String
  | .noWorkers => "max_workers must be greater than 0"
  | .disk e => e.message
  | .misfit m => m.message

namespace Run

/-- Takes the jobs one after the other. -/
def ofJobs (attempt : String → Path → Attempt) : (cancelled : Bool) → List (String × Path) → Run
  | cancelled, [] => { cancelled }
  | true, (shown, _) :: rest =>
    let r := ofJobs attempt true rest
    { r with skipped := shown :: r.skipped }
  | false, (shown, path) :: rest =>
    match attempt shown path with
    | .finished o =>
      let r := ofJobs attempt false rest
      { r with outcomes := o :: r.outcomes }
    | .failed message =>
      let r := ofJobs attempt false rest
      let d : Diagnostic := { file := shown, message := s!"analysis failed: {message}" }
      { r with outcomes := .failure d :: r.outcomes }
    | .interrupted =>
      let r := ofJobs attempt true rest
      { r with skipped := shown :: r.skipped }

/-- The report on a run. -/
def report (r : Run) : Report :=
  Report.ofFiles r.outcomes r.skipped r.cancelled

end Run

/-- The jobs for some paths, by the names under which they are shown. -/
def jobsFor (paths : List Path) (base : Option Path) : Dictionary String Path :=
  Dictionary.ofList (paths.map fun p => (p.shownFrom base, p))

/-- Some number of workers can do the work. -/
def checkCount : Option Int → Except RunError Unit
  | some n => if n ≤ 0 then .error .noWorkers else .ok ()
  | none => .ok ()

/-- A misfit stops a run. -/
def checkMisfit : Option Misfit → Except RunError Unit
  | some m => .error (.misfit m)
  | none => .ok ()

/-- Checks the number of workers; an empty value leaves the choice to the configuration. -/
def checkWorkers (asked : Document) (configured : Option Int) (misfit : Option Misfit) :
    Except RunError Unit := do
  if asked.isEmpty then
    checkMisfit misfit
    checkCount configured
  else
    match asked.count? with
    | some n => checkCount (some n)
    | none => .error (.misfit (.notCount asked.kindName))

/-- What a run works with. -/
structure Project where
  disk : Disk
  config : Config := {}
  misfits : Misfits := {}
  faults : Faults := Faults.none
  /-- How the analysis of a file ends instead, by the name under which it is shown. -/
  override : String → Option Attempt := fun _ => none
  /-- The run is cancelled before it starts. -/
  cancelled : Bool := false
  /-- The number of workers that is asked for. -/
  workers : Document := .null

namespace Project

/-- The analysis of one file. -/
def attempt (p : Project) (shown : String) (path : Path) : Attempt :=
  match p.override shown with
  | some a => a
  | none =>
    match analyzePath p.config p.faults p.disk path shown p.misfits with
    | .ok o => .finished o
    | .error e => .failed e.message

/-- The report on some files. -/
def runPaths (p : Project) (paths : List Path) (base : Option Path) : Except RunError Report := do
  checkWorkers p.workers p.config.maxWorkers p.misfits.maxWorkers
  return (Run.ofJobs p.attempt p.cancelled (jobsFor paths base).entries).report

/-- The report on the Python files at or below a path. The patterns for what is left out are those
of the configuration unless others are given. -/
def runDirectory (p : Project) (root : Path) (exclude : Option Exclusion) :
    Except RunError Report := do
  let exclusion := exclude.getD
    { patterns := p.config.excludePatterns.items, misfit? := p.misfits.excludePatterns }
  let base := if p.disk.isFile root then root.parent else root
  let paths ← (p.disk.discover root exclusion.patterns).mapError .disk
  checkMisfit (p.disk.discoveryMisfit? root exclusion)
  p.runPaths paths (some base)

end Project

end SourceFacts
