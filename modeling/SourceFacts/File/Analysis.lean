import SourceFacts.Call.Extraction
import SourceFacts.Client.Detection
import SourceFacts.Digest.Sha256
import SourceFacts.Endpoint.Mount
import SourceFacts.File.Basic
import SourceFacts.Import.Statement
import SourceFacts.Symbol.Table

/-!
# The analysis of a file

The stages run one after the other over the tree of a module. A stage that breaks down leaves a
diagnostic and no facts; one that a misfit stops leaves a diagnostic and the facts found before; the
others still run.
-/

namespace SourceFacts

/-- The stages that break down, with their messages. -/
abbrev Faults := Stage → Option String

/-- No stage breaks down. -/
def Faults.none : Faults := fun _ => Option.none

/-- The stages that break down, and else those that a misfit stops. -/
def Faults.orMisfits (faults : Faults) (misfit? : Stage → Option Misfit) : Faults := fun stage =>
  faults stage <|> (misfit? stage).map Misfit.message

@[simp]
theorem Faults.orMisfits_none (faults : Faults) :
    faults.orMisfits (fun _ => Option.none) = faults := by
  funext stage
  simp [Faults.orMisfits]

/-- What a stage finds; nothing if it breaks down. -/
def Faults.run {α : Type} (faults : Faults) (stage : Stage) (found nothing : α) : α :=
  match faults stage with
  | some _ => nothing
  | Option.none => found

/-- The diagnostics of the stages that break down. -/
def Faults.diagnostics (faults : Faults) (file : String) : List Diagnostic :=
  Stage.all.filterMap fun stage =>
    (faults stage).map fun message =>
      { file, message := s!"{stage.name} stage failed: {message}", stage := stage.name }

/-- How many problems of syntax are reported one by one. -/
def maxSyntaxDiagnostics : Nat := 20

/-- The problem of syntax that a node stands for. -/
def Node.syntaxProblem? (src : Source) (file : String) (n : Node) : Option Diagnostic :=
  if n.label.isMissing then
    some { file, message := s!"missing '{n.kind}'", line := some (src.line n), stage := "parse" }
  else if n.kind == "ERROR" then
    some { file, message := "syntax error", line := some (src.line n), stage := "parse" }
  else none

/-- The problems of syntax of a tree; those beyond the limit are only counted. -/
def syntaxDiagnostics (src : Source) (file : String) (root : Node) : List Diagnostic :=
  if root.label.hasError then
    let all := (root.walk fun n => n.kind == "ERROR").filterMap (Node.syntaxProblem? src file)
    let more := all.length - maxSyntaxDiagnostics
    all.take maxSyntaxDiagnostics ++
      if more = 0 then []
      else [{ file, message := s!"{more} more syntax errors not reported", stage := "parse" }]
  else []

/-- The facts of the tree of a module. -/
def moduleFacts (config : Config) (faults : Faults) (file module : String) (src : Source)
    (root : Node) (misfits : Misfits := {}) : FileFacts :=
  let imports := faults.run .imports (FileImports.ofTree src file root) {}
  let defs := faults.run .symbols (Definitions.ofModule src file root) {}
  let symbols := defs.symbols.map (·.2)
  let index := SymbolIndex.ofSymbols symbols
  let ctx : CallContext :=
    { src
      imports := imports.moduleMap
      symbolAt := defs.byOffset
      index
      localImports := localImportsByName defs.byOffset imports.localMaps }
  let calls := faults.run .calls (ctx.calls root) []
  let hint := imports.moduleMap.framework?
  let endpointsMisfit := endpointsMisfit? config misfits symbols
  let testFileMisfit := testFileMisfit? misfits file
  let stopped : Stage → Option Misfit := fun
    | .endpoints => endpointsMisfit <|> routerMountsMisfit? src misfits root
    | .clientCalls => clientCallsMisfit? config misfits calls
    | .tests => testFileMisfit <|> testCasesMisfit? config misfits symbols
    | _ => none
  FileFacts.sorted
    { path := file
      module
      contentHash := Digest.sha256 (src.slice root.start root.stop)
      docstring := faults.run .symbols (root.docstring? src) none
      isTestFile := faults.run .tests (testFileMisfit.isNone && isTestFile config file) false
      imports := imports.imports
      symbols
      moduleVariables := defs.moduleVariables
      calls := calls.map (·.1)
      endpoints := faults.run .endpoints (endpointsOf config hint symbols misfits) []
      routerMounts := faults.run .endpoints
        (if endpointsMisfit.isNone then routerMountsOf src config hint root misfits else []) []
      clientCalls := faults.run .clientCalls (clientCallsOf src config calls misfits) []
      protocols := faults.run .protocols index.protocols []
      implementers := faults.run .protocols index.implementers []
      tests := faults.run .tests
        (if testFileMisfit.isNone then testCasesOf config module symbols misfits else []) []
      diagnostics :=
        syntaxDiagnostics src file root ++ imports.diagnostics ++ defs.diagnostics ++
          (faults.orMisfits stopped).diagnostics file }

/-- Analyses a file; only the tree of a module gives facts. -/
def analyzeFile (config : Config) (faults : Faults) (file : String) (src : Source)
    (tree : Option Node) (misfits : Misfits := {}) : Except PathError FileOutcome :=
  match tree with
  | some root =>
    if root.kind == "module" then do
      let module ← moduleName file
      return .facts (moduleFacts config faults file module src root misfits)
    else .ok (.failure { file, message := "syntax tree is not a Python module", stage := "parse" })
  | none => .ok (.failure { file, message := "syntax tree is not a Python module", stage := "parse" })

end SourceFacts
