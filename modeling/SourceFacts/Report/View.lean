import SourceFacts.Report.Basic
import SourceFacts.Report.Fields

/-!
# Reports as documents

A report is given out with the files first and the facts of each kind over all files after them.
-/

namespace SourceFacts.Report

open Document (nat texts)

/-- A fact with the file that it belongs to. -/
def inFile {α : Type} (fields : α → Document.Fields) (f : FileFacts) (a : α) : Document :=
  .record (("file", .text f.path) :: fields a)

/-- The facts of one kind over all files. -/
def factSection {α : Type} (r : Report) (facts : FileFacts → List α)
    (fields : α → Document.Fields) : List Document :=
  r.files.flatMap fun f => (facts f).map (inFile fields f)

/-- The facts of each kind over all files. -/
def sections (r : Report) : List (String × List Document) :=
  [("symbols", r.factSection (·.symbols) Symbol.fields),
   ("calls", r.factSection (·.calls) CallSite.fields),
   ("endpoints", r.factSection (·.endpoints) Endpoint.fields),
   ("router_mounts", r.factSection (·.routerMounts) RouterMount.fields),
   ("client_calls", r.factSection (·.clientCalls) ClientCall.fields),
   ("protocols", r.factSection (·.protocols) Protocol.fields),
   ("implementers", r.factSection (·.implementers) Implementer.fields),
   ("tests", r.factSection (·.tests) TestCase.fields)]

/-- How many facts of one kind there are, counted file by file. -/
def factCount {α : Type} (r : Report) (facts : FileFacts → List α) : Nat :=
  r.files.foldl (fun n f => n + (facts f).length) 0

/-- How much of everything there is. -/
def stats (r : Report) : List (String × Nat) :=
  [("files", r.files.length),
   ("symbols", r.factCount (·.symbols)),
   ("calls", r.factCount (·.calls)),
   ("endpoints", r.factCount (·.endpoints)),
   ("router_mounts", r.factCount (·.routerMounts)),
   ("client_calls", r.factCount (·.clientCalls)),
   ("protocols", r.factCount (·.protocols)),
   ("implementers", r.factCount (·.implementers)),
   ("tests", r.factCount (·.tests)),
   ("diagnostics", r.diagnostics.length),
   ("skipped", r.skipped.length)]

/-- Counts as a document. -/
def countDocument (counts : List (String × Nat)) : Document :=
  .record (counts.map fun (name, n) => (name, nat n))

/-- The report as a document. -/
def document (r : Report) : Document :=
  .record <|
    [("files", Document.records FileFacts.headFields r.files)] ++
    r.sections.map (fun (name, facts) => (name, .list facts)) ++
    [("diagnostics", Document.records Diagnostic.fields r.diagnostics),
     ("skipped", texts r.skipped),
     ("cancelled", .bool r.cancelled),
     ("summary", countDocument r.stats)]

/-- The counts of calls by the names of their kinds. -/
def namedCallCounts (r : Report) : List (String × Nat) :=
  r.callCounts.map fun (kind, n) => (kind.name, n)

end SourceFacts.Report
