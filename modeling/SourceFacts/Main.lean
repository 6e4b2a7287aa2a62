import SourceFacts.CommandLine.Command
import SourceFacts.Syntax.Lines

/-!
# The program

Reads the current directory, runs the command line on it, and prints and writes what that gives.
The syntax tree of a file stands in a file of the same name with `.tree` after it.
-/

namespace SourceFacts.CommandLine

/-- What the parser made of the file at a path. -/
def loadParsed (path : String) : IO Parsed := do
  try
    return .tree (Node.ofLines? (← IO.FS.readFile (path ++ ".tree")))
  catch _ => return .tree none

/-- Reads a file or a directory. -/
partial def loadEntry (path : String) : IO Entry := do
  let found ← IO.FS.realPath path
  if ← found.isDir then
    let entries ← found.readDir
    return .directory (← entries.toList.mapM fun e => do
      return (e.fileName, ← loadEntry e.path.toString))
  else
    return .file { bytes := (← IO.FS.readBinFile path).toList, parsed := ← loadParsed path }

/-- Reads the current directory. -/
def loadDisk : IO Disk := do
  let here := (Path.parse (← IO.currentDir).toString).parts
  return { top := Entry.put (.directory []) here (← loadEntry "."), here }

/-- Hundredths of a second in seconds. -/
def seconds (hundredths : Nat) : String :=
  let rest := hundredths % 100
  s!"{hundredths / 100}." ++ (if rest < 10 then "0" else "") ++ toString rest

/-- Makes a change to the real disk. -/
def applyChange : Change → IO Unit
  | .directory p => IO.FS.createDirAll p.text
  | .file p bytes => IO.FS.writeBinFile p.text (ByteArray.mk bytes.toArray)

/-- Prints what a command printed. -/
def printChunk (hundredths : Nat) : Chunk → IO Unit
  | .line s => IO.println s
  | .elapsed => IO.println ("⏱  Analysis: " ++ seconds hundredths ++ "s")

/-- Says why a command ended early. -/
def printEnding : Ending → IO Unit
  | .status _ => return
  | .usage e => IO.eprintln ("Error: " ++ e.message)
  | .noCommand => programHelp.forM IO.eprintln
  | .breakdown b => IO.eprintln b.message

end SourceFacts.CommandLine

open SourceFacts SourceFacts.CommandLine in
/-- Runs the command line in the current directory. -/
def main (args : List String) : IO UInt32 := do
  let disk ← loadDisk
  let start ← IO.monoMsNow
  let (ending, session) := (run { disk } args).runOn disk
  session.changes.forM applyChange
  let stop ← IO.monoMsNow
  session.printed.forM (printChunk ((stop - start) / 10))
  match ending with
  | .ok () => return 0
  | .error e =>
    printEnding e
    return e.code.toUInt32
