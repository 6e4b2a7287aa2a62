import SourceFacts.Coordinate
import SourceFacts.Order

/-!
# Diagnostics

Problems met while a file is analysed, and the stages of the analysis that report them.
-/

namespace SourceFacts

/-- The stages of the analysis of a file, in the order in which they run. -/
inductive Stage where
  | imports
  | symbols
  | calls
  | endpoints
  | clientCalls
  | protocols
  | tests
deriving DecidableEq

/-- The name of a stage. -/
def Stage.name : Stage → String
  | .imports => "imports"
  | .symbols => "symbols"
  | .calls => "calls"
  | .endpoints => "endpoints"
  | .clientCalls => "client_calls"
  | .protocols => "protocols"
  | .tests => "tests"

/-- All stages in order. -/
def Stage.all : List Stage :=
  [.imports, .symbols, .calls, .endpoints, .clientCalls, .protocols, .tests]

/-- A problem, with the file, the line if it has one, and what reported it. -/
structure Diagnostic where
  file : String
  message : String
  line : Coordinate := none
  stage : String := "pipeline"
deriving DecidableEq

/-- Diagnostics are ordered by file, line, stage and message; no line counts as line zero. -/
def Diagnostic.cmp : Diagnostic → Diagnostic → Ordering :=
  thenBy (compareOn (·.file)) <| thenBy (compareOn (·.line.rank)) <|
    thenBy (compareOn (·.stage)) (compareOn (·.message))

end SourceFacts
