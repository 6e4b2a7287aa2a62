import SourceFacts.Console.Grid
import SourceFacts.Document
import SourceFacts.Number.Grouped
import SourceFacts.Report.Basic

/-!
# Tables of the command line

What the commands show of a report.
-/

namespace SourceFacts.Console

/-- The counts that a summary shows, with what they are called. -/
def summaryLabels : List (String × String) :=
  [("files", "Files analyzed"),
   ("symbols", "Symbols"),
   ("calls", "Call sites"),
   ("endpoints", "Endpoints"),
   ("router_mounts", "Router mounts"),
   ("client_calls", "HTTP client calls"),
   ("protocols", "Protocols"),
   ("implementers", "Implementers"),
   ("tests", "Tests"),
   ("diagnostics", "Diagnostics"),
   ("skipped", "Skipped files")]

/-- A count with grouping commas. -/
def countText : Document → Except ShowError String
  | .int n => .ok (Number.grouped n)
  | .float bits => .ok (Number.binary64Text bits true)
  | .bool b => .ok (Number.grouped (if b then 1 else 0))
  | .text _ => .error .textCount
  | d => .error (.count d.kindName)

/-- The summary of a report by its counts; a count that lacks is zero. -/
def summary (stats callCounts : Document.Fields) : Except ShowError Grid := do
  let known ← summaryLabels.mapM fun (key, label) => do
    return [Cell.text label, .text (← countText ((stats.lookup key).getD (.int 0)))]
  let calls ← callCounts.mapM fun (kind, n) => do
    return [Cell.text ("  " ++ kind), .text (← countText n)]
  return {
    title := some "Analysis Summary"
    columns := [{ header := "Metric" }, { header := "Count", justify := .right }]
    rows := known ++ calls }

/-- A place in a file. -/
def location (file : String) (line : Coordinate) : String :=
  match line with
  | some n => s!"{file}:{n}"
  | none => s!"{file}:None"

/-- The rows of one kind of fact over all files. -/
def factRows {α : Type} (r : Report) (facts : FileFacts → List α)
    (row : String → α → List String) : List (List Cell) :=
  r.files.flatMap fun f => (facts f).map fun fact => (row f.path fact).map .text

/-- The endpoints of a report. -/
def endpointGrid (r : Report) : Grid where
  title := some "HTTP Endpoints"
  columns :=
    [{ header := "Method" }, { header := "Path" }, { header := "Handler" },
     { header := "Framework" }, { header := "Location" }]
  rows := factRows r (·.endpoints) fun file e =>
    [e.method, e.path, e.handler, e.framework, location file e.line]

/-- The mounts of a report. -/
def mountGrid (r : Report) : Grid where
  title := some "Router Mounts"
  columns :=
    [{ header := "App" }, { header := "Router" }, { header := "Prefix" }, { header := "Location" }]
  rows := factRows r (·.routerMounts) fun file m =>
    [m.app, (m.router.bind nonEmpty?).getD "?", m.pathStart.getD "", location file m.line]

/-- The requests of a report. -/
def clientGrid (r : Report) : Grid where
  title := some "HTTP Client Calls"
  columns :=
    [{ header := "Method" }, { header := "Path" }, { header := "Library" },
     { header := "Async", justify := .center }, { header := "Caller" }, { header := "Location" }]
  rows := factRows r (·.clientCalls) fun file c =>
    [c.method, c.path.getD "[dim]<unresolved>[/dim]", c.library,
     if c.isAsync then "yes" else "", c.caller, location file c.line]

/-- A diagnostic as a line. -/
def diagnosticLine (d : Diagnostic) : String :=
  let line := d.line.getD 0
  let place := if line = 0 then d.file else location d.file (some line)
  s!"  [dim]{place}[/dim] [{d.stage}] {d.message}"

end SourceFacts.Console
