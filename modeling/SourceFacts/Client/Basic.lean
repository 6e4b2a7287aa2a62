import SourceFacts.Coordinate

/-!
# Outbound requests

A call through a client library that sends a request.
-/

namespace SourceFacts

/-- How much of a path is known. -/
inductive PathKind where
  | literal
  | template
  | unresolved
deriving DecidableEq

/-- The name of a kind. -/
def PathKind.name : PathKind → String
  | .literal => "literal"
  | .template => "template"
  | .unresolved => "unresolved"

/-- A request sent through a client library. -/
structure ClientCall where
  method : String
  path : Option String
  pathKind : String
  isAsync : Bool
  library : String
  caller : String
  line : Coordinate
  column : Coordinate
  /-- The text of the address. -/
  expression : Option String := none

end SourceFacts
