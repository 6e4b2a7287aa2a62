import SourceFacts.File.Basic
import SourceFacts.Misfit

/-!
# Facts that have no order

Imports, endpoints and implementers are put in order by lines that have to be known: a line that is
not cannot be compared with one that is. Endpoints and implementers are ordered by a second key
where their lines are equal, so there unknown lines all over are no obstacle.
-/

namespace SourceFacts

open Document (optional)

/-- What putting facts with these lines in order meets first. Unknown lines may be equal where a
second key decides. -/
def lineMisfit? (hasSecondKey : Bool) : List Coordinate → Option Misfit
  | [] => none
  | first :: rest =>
    let isOrdered (c : Coordinate) : Bool :=
      c.isSome == first.isSome && (hasSecondKey || c.isSome)
    (rest.find? fun c => !isOrdered c).map fun c =>
      .unordered (optional .int c).kindName (optional .int first).kindName

/-- What putting the facts of a file in order meets. -/
def FileFacts.orderMisfit? (f : FileFacts) : Option Misfit :=
  lineMisfit? false (f.imports.map (·.line)) <|>
    lineMisfit? true (f.endpoints.map (·.line)) <|>
      lineMisfit? true (f.implementers.map (·.line))

end SourceFacts
