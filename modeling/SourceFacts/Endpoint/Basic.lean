import SourceFacts.Coordinate

/-!
# Endpoints and mounts

A route that a decorator binds to a handler, and a router that is mounted on an application.
-/

namespace SourceFacts

/-- A route bound to a handler. -/
structure Endpoint where
  method : String
  path : String
  handler : String
  framework : String
  line : Coordinate
  router : Option String := none

/-- A router mounted on an application. -/
structure RouterMount where
  app : String
  router : Option String
  /-- What comes before the paths of the router. -/
  pathStart : Option String
  framework : String
  line : Coordinate

end SourceFacts
