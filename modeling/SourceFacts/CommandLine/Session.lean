import SourceFacts.CommandLine.Arguments
import SourceFacts.Console.Summary
import SourceFacts.Project.Run

/-!
# Sessions

A command prints and writes as it goes, and may end at any point. What was printed and written
before stays.
-/

namespace SourceFacts.CommandLine

/-- A part of what is printed. The time that the analysis took is known outside only. -/
inductive Chunk where
  | line (s : String)
  | elapsed

/-- A change to the disk. -/
inductive Change where
  | directory (p : Path)
  | file (p : Path) (bytes : List UInt8)

/-- What a command breaks down with. -/
inductive Breakdown where
  | run (e : RunError)
  | show (e : Console.ShowError)
  | disk (e : DiskError)
  | path (e : PathError)

/-- The report of a breakdown. -/
def Breakdown.message : Breakdown → String
  | .run e => e.message
  | .show e => e.message
  | .disk e => e.message
  | .path e => e.message

/-- How a command ends early. -/
inductive Ending where
  | status (code : Nat)
  | usage (e : UsageError)
  /-- No command was given; the help says which there are. -/
  | noCommand
  | breakdown (b : Breakdown)

/-- The exit code of an ending. -/
def Ending.code : Ending → Nat
  | .status code => code
  | .usage _ | .noCommand => 2
  | .breakdown _ => 1

/-- What a command has done so far. -/
structure Session where
  disk : Disk
  printed : List Chunk := []
  changes : List Change := []

/-- A step of a command. -/
abbrev Action := ExceptT Ending (StateM Session)

/-- Prints lines as they are. -/
def printLines (l : List String) : Action Unit :=
  modify fun s => { s with printed := s.printed ++ l.map .line }

/-- Prints the time that the analysis took. -/
def printElapsed : Action Unit :=
  modify fun s => { s with printed := s.printed ++ [.elapsed] }

/-- What is to be shown, or the end of the command if it cannot be. -/
def shown {α : Type} (l : Except Console.ShowError α) : Action α :=
  match l with
  | .ok l => pure l
  | .error e => throw (.breakdown (.show e))

/-- Prints a marked-up text. -/
def say (markup : String) : Action Unit := do
  printLines (← shown (Console.shownLines markup))

/-- Prints a table. -/
def sayGrid (g : Console.Grid) : Action Unit := do
  printLines (← shown g.render)

/-- Writes a file. -/
def writeFile (p : Path) (bytes : List UInt8) : Action (Except DiskError Unit) := do
  let s ← get
  match s.disk.write p { bytes } with
  | .ok disk =>
    set { s with disk, changes := s.changes ++ [Change.file p bytes] }
    return .ok ()
  | .error e => return .error e

/-- Makes a directory and those above it that lack. -/
def makeDirectories (p : Path) : Action (Except DiskError Unit) := do
  let s ← get
  let made := s.disk.makeDirectories p
  set { s with disk := made.disk, changes := s.changes ++ made.paths.reverse.map Change.directory }
  match made.error? with
  | none => return .ok ()
  | some e => return .error e

/-- Runs steps on a disk. -/
def Action.runOn (a : Action Unit) (disk : Disk) : Except Ending Unit × Session :=
  (ExceptT.run a).run { disk }

end SourceFacts.CommandLine
