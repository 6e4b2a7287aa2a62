import SourceFacts.File.Analysis
import SourceFacts.Project.Disk

/-!
# Reading and analysing a file

A file that cannot be read, is no text or cannot be parsed gives a diagnostic in place of facts.
-/

namespace SourceFacts

/-- Why a file gives no tree. -/
inductive ReadError where
  | disk (path : String) (e : DiskError)
  | encoding (path : String) (f : Text.Utf8.Failure)
  | parse (path message : String)
  | noParser (message : String)

/-- The report of an error. -/
def ReadError.message : ReadError → String
  | .disk path e => s!"Error reading {path}: {e.message}"
  | .encoding path f => s!"Encoding error reading {path}: {f.message}"
  | .parse path message => s!"Failed to parse {path}: {message}"
  | .noParser message => message

/-- The source and the tree of a file. -/
def Disk.readTree (d : Disk) (p : Path) : Except ReadError (Source × Option Node) :=
  match d.read p with
  | .error e => .error (.disk p.text e)
  | .ok content =>
    match Text.Utf8.failure? content.bytes with
    | some f => .error (.encoding p.text f)
    | none =>
      match content.parsed with
      | .tree root => .ok ({ bytes := content.bytes }, root)
      | .failed message => .error (.parse p.text message)
      | .unavailable message => .error (.noParser message)

/-- Why a file is not analysed. -/
inductive AnalysisError where
  | path (e : PathError)
  /-- The parser gave nothing. -/
  | noTree

/-- What is asked of a tree first is its root. -/
def AnalysisError.lack : Lack where
  asked := "root_node"

/-- The report of an error. -/
def AnalysisError.message : AnalysisError → String
  | .path e => e.message
  | .noTree => lack.message

/-- Reads and analyses a file that is shown under the given name, or else under its path. -/
def analyzePath (config : Config) (faults : Faults) (d : Disk) (p : Path) (shown : String)
    (misfits : Misfits := {}) : Except AnalysisError FileOutcome :=
  let file := if shown.isEmpty then p.text else shown
  if Path.hasNull p.text then .error (.path .nullByte)
  else
    match d.readTree p with
    | .error e => .ok (.failure { file, message := e.message, stage := "parse" })
    | .ok (_, none) => .error .noTree
    | .ok (src, tree) => (analyzeFile config faults file src tree misfits).mapError .path

end SourceFacts
