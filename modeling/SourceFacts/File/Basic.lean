import SourceFacts.Call.Basic
import SourceFacts.Client.Basic
import SourceFacts.Diagnostic
import SourceFacts.Endpoint.Basic
import SourceFacts.Import.Basic
import SourceFacts.Protocol
import SourceFacts.TestCase

/-!
# The facts of a file

All that is known of one file. Each list is kept in the order of the source.
-/

namespace SourceFacts

/-- The facts of a file. -/
structure FileFacts where
  path : String
  module : String
  contentHash : String
  docstring : Option String := none
  isTestFile : Bool := false
  imports : List Import := []
  symbols : List Symbol := []
  moduleVariables : List Variable := []
  calls : List CallSite := []
  endpoints : List Endpoint := []
  routerMounts : List RouterMount := []
  clientCalls : List ClientCall := []
  protocols : List Protocol := []
  implementers : List Implementer := []
  tests : List TestCase := []
  diagnostics : List Diagnostic := []

/-- What the analysis of a file gives: its facts, or the reason why there are none. -/
inductive FileOutcome where
  | facts (f : FileFacts)
  | failure (d : Diagnostic)

namespace FileFacts

/-- The last definition of a qualified name. -/
def symbol? (f : FileFacts) (name : String) : Option Symbol :=
  (f.symbols.filter fun s => s.qualifiedName == name).getLast?

/-- The calls that a scope makes. -/
def callsBy (f : FileFacts) (caller : String) : List CallSite :=
  f.calls.filter fun c => c.caller == caller

/-- Every list in the order of the source. -/
def sorted (f : FileFacts) : FileFacts :=
  { f with
    imports := sortBy (compareOn (·.line.rank)) f.imports
    symbols := sortBy (thenBy (compareOn (·.line.rank)) (compareOn (·.column.rank))) f.symbols
    moduleVariables := sortBy (compareOn (·.line.rank)) f.moduleVariables
    calls := sortBy (thenBy (compareOn (·.line.rank)) (compareOn (·.column.rank))) f.calls
    endpoints := sortBy (thenBy (compareOn (·.line.rank)) (compareOn (·.handler))) f.endpoints
    routerMounts := sortBy (compareOn (·.line.rank)) f.routerMounts
    clientCalls := sortBy (thenBy (compareOn (·.line.rank)) (compareOn (·.column.rank))) f.clientCalls
    protocols := sortBy (compareOn (·.line.rank)) f.protocols
    implementers := sortBy (thenBy (compareOn (·.line.rank)) (compareOn (·.protocol))) f.implementers
    tests := sortBy (compareOn (·.line.rank)) f.tests
    diagnostics := sortBy Diagnostic.cmp f.diagnostics }

end FileFacts

end SourceFacts
