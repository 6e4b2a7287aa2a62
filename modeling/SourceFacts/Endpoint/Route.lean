import SourceFacts.Config
import SourceFacts.Decorator
import SourceFacts.Endpoint.Basic
import SourceFacts.Import.Basic
import SourceFacts.Misfit
import SourceFacts.Symbol.Basic
import SourceFacts.Text.Case

/-!
# Routes

A decorator `@router.verb(path)` binds one method, `@router.route(path, methods=[…])` one or
several. Only paths and methods that are written out count.
-/

namespace SourceFacts

/-- The framework that the imports suggest, else the usual one. -/
def frameworkOr (hint : Option String) : String :=
  (hint.bind nonEmpty?).getD "fastapi"

/-- The path of a route: the first positional argument, else `path`, else `rule`. -/
def Decorator.routePath? (d : Decorator) : Option String :=
  match d.positional with
  | first :: _ => first.stringValue?
  | [] =>
    match d.keyword? "path" with
    | some a => a.stringValue?
    | none => (d.keyword? "rule").bind (·.stringValue?)

/-- The texts in a list of values, if all are texts. -/
def allTexts? : List Literal → Option (List String)
  | [] => some []
  | .text s :: rest => (allTexts? rest).map (s :: ·)
  | _ :: _ => none

/-- The list without the elements that occur earlier in it. -/
def firstOccurrences (l : List String) : List String :=
  l.foldl (fun seen s => if seen.contains s then seen else seen ++ [s]) []

/-- The methods of a route that may have several; none if they are not written out. -/
def Decorator.routeMethods (d : Decorator) : List String :=
  match d.keyword? "methods" with
  | none => ["GET"]
  | some a =>
    let values :=
      match a.value with
      | none => []
      | some (.list vs) => vs
      | some v => [v]
    firstOccurrences (((allTexts? values).getD []).map Text.upper)

/-- The methods and the framework of a route decorator whose last name is the given one. -/
def Decorator.routeBinding? (config : Config) (hint : Option String) (member : String)
    (d : Decorator) : Option (List String × String) :=
  if member == config.routeDecorator then some (d.routeMethods, "flask")
  else if config.routeVerbs.has member then some ([Text.upper member], frameworkOr hint)
  else none

/-- The endpoints that a decorator binds to a handler. -/
def Decorator.endpoints (config : Config) (hint : Option String) (handler : String)
    (d : Decorator) : List Endpoint :=
  match d.callee with
  | none => []
  | some callee =>
    if d.isCall && Text.isDotted callee then
      match d.routeBinding? config hint (Text.lastPart callee), d.routePath? with
      | some (methods, framework), some path =>
        methods.map fun method =>
          { method, path, handler, framework, line := d.line
            router := some (Text.earlierParts callee) }
      | _, _ => []
    else []

/-- What matching a decorator meets. The verbs are looked up only for a name that is not the one of
routes with several methods. -/
def Decorator.misfit? (config : Config) (misfits : Misfits) (d : Decorator) : Option Misfit :=
  match d.callee with
  | none => none
  | some callee =>
    if d.isCall && Text.isDotted callee && Text.lastPart callee != config.routeDecorator then
      misfits.routeVerbs
    else none

@[simp]
theorem Decorator.misfit?_none (config : Config) (d : Decorator) : d.misfit? config {} = none := by
  unfold Decorator.misfit?
  split <;> simp

/-- The functions and the methods among some symbols, with each of their decorators. -/
def decorations (symbols : List Symbol) : List (Symbol × Decorator) :=
  (symbols.filter fun s => decide (s.kind ≠ .cls)).flatMap fun s => s.decorators.map (s, ·)

/-- The endpoints of the functions and the methods among some symbols. -/
def endpointsOf (config : Config) (hint : Option String) (symbols : List Symbol)
    (misfits : Misfits := {}) : List Endpoint :=
  (beforeMisfit (fun d => d.2.misfit? config misfits) (decorations symbols)).flatMap fun (s, d) =>
    d.endpoints config hint s.qualifiedName

/-- What finding the endpoints meets. -/
def endpointsMisfit? (config : Config) (misfits : Misfits) (symbols : List Symbol) :
    Option Misfit :=
  (decorations symbols).findSome? fun d => d.2.misfit? config misfits

@[simp]
theorem endpointsMisfit?_none (config : Config) (symbols : List Symbol) :
    endpointsMisfit? config {} symbols = none := by
  simp [endpointsMisfit?]

theorem endpointsOf_eq (config : Config) (hint : Option String) (symbols : List Symbol) :
    endpointsOf config hint symbols =
      (symbols.filter fun s => decide (s.kind ≠ .cls)).flatMap fun s =>
        s.decorators.flatMap (Decorator.endpoints config hint s.qualifiedName) := by
  simp [endpointsOf, decorations, List.flatMap_assoc, List.flatMap_map]

end SourceFacts
