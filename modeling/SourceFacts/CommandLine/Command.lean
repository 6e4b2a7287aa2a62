import SourceFacts.CommandLine.Help
import SourceFacts.CommandLine.Session
import SourceFacts.Number.Integer
import SourceFacts.Report.Table

/-!
# Commands

The command `analyze` reports on a project, the command `endpoints` lists what it serves and what
it calls. Options are checked in the order in which they are given, the path after them.
-/

namespace SourceFacts.CommandLine

/-- The option that asks for help. -/
def helpSwitch : Switch := { name := "--help", takesValue := false }

/-- The options of the program. -/
def programSwitches : List Switch :=
  [{ name := "--version", takesValue := false },
   { name := "--verbose", letter := some 'v', takesValue := false },
   helpSwitch]

/-- The options of the command `endpoints`. -/
def endpointsSwitches : List Switch :=
  [{ name := "--workers", letter := some 'w' }, helpSwitch]

/-- The options of the command `analyze`. -/
def analyzeSwitches : List Switch :=
  [{ name := "--output", letter := some 'o' },
   { name := "--parquet-dir" },
   { name := "--exclude" },
   { name := "--include" },
   { name := "--workers", letter := some 'w' },
   { name := "--client-lib" },
   helpSwitch]

/-- How an option is named in a report. -/
def parameterName (s : Switch) : String :=
  match s.letter with
  | some c => String.ofList ['\'', '-', c, '\''] ++ s!" / '{s.name}'"
  | none => s!"'{s.name}'"

/-- The option takes a path. -/
def takesPath (name : String) : Bool :=
  name == "--output" || name == "--parquet-dir"

/-- What is wrong with the value of an option. -/
def valueProblem? (d : Disk) (name value : String) : Option ValueProblem :=
  match name with
  | "--workers" => if (Number.readDecimal? value).isNone then some (.notInteger value) else none
  | "--output" =>
    match d.findText? value with
    | some (.directory _) => if value = "-" then none else some (.isDirectory value)
    | _ => none
  | "--parquet-dir" =>
    match d.findText? value with
    | some (.file _) => some (.isFile value)
    | _ => none
  | _ => none

/-- How the check of an option ends the command. -/
def optionEnding? (d : Disk) (s : Switch) (value : String) : Option Ending :=
  if takesPath s.name && Path.hasNull value then some (.breakdown (.path .nullByte))
  else (valueProblem? d s.name value).map fun problem => .usage (.invalid (parameterName s) problem)

/-- How the check of the arguments ends the command. -/
def argumentEnding? (d : Disk) : List String → Option Ending
  | [] => some (.usage (.missingArgument "PATH"))
  | path :: rest =>
    if Path.hasNull path then some (.breakdown (.path .nullByte))
    else if (d.findText? path).isNone then some (.usage (.invalid "'PATH'" (.noPath path)))
    else if rest.isEmpty then none
    else some (.usage (.unexpected rest))

/-- How the check of the options and the arguments, in this order, ends the command. -/
def checkEnding? (d : Disk) (switches : List Switch) (g : Given) : Option Ending :=
  let ofOption (name : String) : Option Ending := do
    let s ← switches.find? fun s => s.name == name
    optionEnding? d s (← g.last? name)
  g.names.findSome? ofOption <|> argumentEnding? d g.arguments

/-- What a command is given once it is checked. -/
structure Invocation where
  path : String
  output : Option String := none
  tableDirectory : Option String := none
  exclude : List String := []
  keep : List String := []
  workers : Option Int := none
  clientLibraries : List String := []

/-- What a command is given. -/
def invocation (g : Given) : Invocation where
  path := g.arguments.headD ""
  output := g.last? "--output"
  tableDirectory := g.last? "--parquet-dir"
  exclude := g.all "--exclude"
  keep := g.all "--include"
  workers := (g.last? "--workers").bind Number.readDecimal?
  clientLibraries := g.all "--client-lib"

/-- The number of workers that a command asks for, as a value. -/
def Invocation.workerValue (i : Invocation) : Document :=
  Document.optional .int i.workers

/-- The settings of a run of `analyze`. -/
def Invocation.config (i : Invocation) : Config :=
  let usual := ({} : Config)
  let libraries := usual.httpClientLibraries.items
  { usual with
    httpClientLibraries := .many (libraries ++ i.clientLibraries.filter (!libraries.contains ·))
    excludePatterns := .many (exclusions i.exclude i.keep)
    maxWorkers := i.workers }

/-- The report on the files at or below a path, or the end of the command. -/
def reportOn (p : Project) (root : Path) : Action Report :=
  match p.runDirectory root none with
  | .ok r => pure r
  | .error e => throw (.breakdown (.run e))

/-- Counts as fields. -/
def countFields (l : List (String × Nat)) : Document.Fields :=
  l.map fun (name, n) => (name, .int n)

/-- Writes the tables of a report to a directory; an error keeps the tables after it from being
written. -/
def writeTables (p : Path) : List Table → Action (Except DiskError Unit)
  | [] => return .ok ()
  | t :: rest => do
    let text := (Document.list (t.rows.map .record)).render
    match ← writeFile (p.join (Path.parse (t.name ++ ".parquet"))) (Text.Utf8.encode text) with
    | .ok () => writeTables p rest
    | .error e => return .error e

/-- Writes the tables of a report, or ends the command. -/
def exportTables (r : Report) (directory : String) : Action Unit := do
  let p := Path.parse directory
  let done ← match ← makeDirectories p with
    | .ok () => writeTables p r.tables
    | .error e => pure (.error e)
  match done with
  | .ok () => return
  | .error e =>
    say s!"[red]Error:[/red] Failed to write Parquet tables: {e.message}"
    throw (.status 1)

/-- Prints or writes the report. -/
def giveReport (i : Invocation) (r : Report) : Action Unit := do
  match i.output with
  | none => return
  | some output =>
    if output = "-" then printLines (Text.split '\n' r.document.render)
    else if !output.isEmpty then
      match ← writeFile (Path.parse output) (Text.Utf8.encode r.document.render) with
      | .ok () => say s!"[green]Report written to[/green] {output}"
      | .error e => throw (.breakdown (.disk e))

/-- Prints the summary and the first diagnostics. -/
def saySummary (r : Report) : Action Unit := do
  sayGrid (← shown (Console.summary (countFields r.stats) (countFields r.namedCallCounts)))
  printElapsed
  if !r.diagnostics.isEmpty then
    let count := Number.grouped r.diagnostics.length
    say s!"[yellow]{count} diagnostics[/yellow] (use --output to see them all)"
    (r.diagnostics.take 10).forM fun d => say (Console.diagnosticLine d)

/-- The command `analyze`. -/
def analyze (base : Project) (i : Invocation) : Action Unit := do
  let target := base.disk.absolute (Path.parse i.path)
  let quiet := i.output = some "-"
  if !quiet then
    printLines (← shown (Console.headerPanel "archscan" target.text))
    if !i.keep.isEmpty then
      say ("[cyan]Including (overriding defaults):[/cyan] " ++ Text.joinWith ", " i.keep)
    say ("[dim]Excluding:[/dim] " ++ Text.joinWith ", " i.config.excludePatterns.items)
  let r ← reportOn { base with config := i.config, workers := i.workerValue } target
  if r.cancelled then
    say s!"[yellow]Analysis interrupted, {r.skipped.length} files skipped[/yellow]"
    throw (.status 130)
  giveReport i r
  match i.tableDirectory.bind nonEmpty? with
  | none => pure ()
  | some directory =>
    exportTables r directory
    if !quiet then say s!"[green]Wrote {r.tables.length} Parquet tables to[/green] {directory}"
  if !quiet then saySummary r

/-- The command `endpoints`. -/
def endpoints (base : Project) (i : Invocation) : Action Unit := do
  let r ← reportOn { base with workers := i.workerValue } (base.disk.absolute (Path.parse i.path))
  sayGrid (Console.endpointGrid r)
  let mounts := Console.mountGrid r
  if !mounts.rows.isEmpty then sayGrid mounts
  sayGrid (Console.clientGrid r)

/-- Ends the command for wrong arguments. -/
def refuse {α : Type} (e : UsageError) : Action α := throw (.usage e)

/-- Reads words, or ends the command. -/
def readOrRefuse (switches : List Switch) (mixed : Bool) (words : List String) : Action Given :=
  match readArguments switches mixed words with
  | .ok g => pure g
  | .error e => refuse e

/-- Runs a command on its words. -/
def runCommand (base : Project) (switches : List Switch) (help : List String)
    (command : Project → Invocation → Action Unit) (words : List String) : Action Unit := do
  let g ← readOrRefuse switches true words
  if g.has "--help" then printLines help
  else
    match checkEnding? base.disk switches g with
    | some ending => throw ending
    | none => command base (invocation g)

/-- What is printed for the version. -/
def versionLine : String := "cli, version 0.1.0"

/-- The commands. -/
def commandNames : List String := ["analyze", "endpoints"]

/-- Reads words for the program itself. The one of the options for the version and for help that
comes first is answered at once, and ends the program. -/
def readProgram (words : List String) : Action Given := do
  let g ← readOrRefuse programSwitches false words
  match g.names.find? fun name => name == "--version" || name == "--help" with
  | some "--version" => printLines [versionLine]; throw (.status 0)
  | some _ => printLines programHelp; throw (.status 0)
  | none => return g

/-- Refuses a name that is no command. Where it looks like an option, the words are read as such
first. -/
def refuseCommand (name : String) (words : List String) : Action Unit := do
  if Text.startsWith "-" name then
    let _ ← readProgram words
  refuse (.noSuchCommand name (Text.closest name commandNames))

/-- Runs the command line. -/
def run (base : Project) (words : List String) : Action Unit := do
  if words.isEmpty then throw .noCommand
  let g ← readProgram words
  match g.arguments with
  | [] => refuse .missingCommand
  | "analyze" :: rest => runCommand base analyzeSwitches analyzeHelp analyze rest
  | "endpoints" :: rest => runCommand base endpointsSwitches endpointsHelp endpoints rest
  | name :: rest => refuseCommand name (name :: rest)

end SourceFacts.CommandLine
