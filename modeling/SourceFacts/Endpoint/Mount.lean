import SourceFacts.Endpoint.Route
import SourceFacts.Syntax.Walk

/-!
# Mounts

A call `app.include_router(router, prefix=…)` or `app.register_blueprint(…)` outside every
definition mounts a router.
-/

namespace SourceFacts

/-- The router among the arguments: the first positional one, else the one with its keyword. -/
def mountedRouter? (arguments : List Argument) : Option String :=
  match arguments.find? fun a => a.keyword.isNone with
  | some a => some a.text
  | none =>
    (arguments.find? fun a => a.keyword == some "router" || a.keyword == some "blueprint").map
      (·.text)

/-- What is put before the paths: the first text written out for its keyword. -/
def mountedStart? (arguments : List Argument) : Option String :=
  (arguments.filter fun a => a.keyword == some "prefix" || a.keyword == some "url_prefix").findSome?
    (·.stringValue?)

/-- The mount that a call makes. -/
def Node.mount? (src : Source) (config : Config) (hint : Option String) (call : Node) :
    Option RouterMount := do
  guard (call.kind == "call")
  let callee ← call.callee? src
  guard (Text.isDotted callee)
  let method := Text.lastPart callee
  guard (config.routerMountMethods.has method)
  let arguments := Node.arguments src (call.child? "arguments")
  return {
    app := Text.earlierParts callee
    router := mountedRouter? arguments
    pathStart := mountedStart? arguments
    framework := if method == "register_blueprint" then "flask" else frameworkOr hint
    line := some (src.line call) }

/-- What asking whether a call makes a mount meets. -/
def Node.mountMisfit? (src : Source) (misfits : Misfits) (call : Node) : Option Misfit := do
  guard (call.kind == "call")
  let callee ← call.callee? src
  guard (Text.isDotted callee)
  misfits.routerMountMethods

@[simp]
theorem Node.mountMisfit?_none (src : Source) (call : Node) : call.mountMisfit? src {} = none := by
  refine Option.bind_eq_none_iff.mpr fun _ _ => ?_
  refine Option.bind_eq_none_iff.mpr fun callee _ => ?_
  exact Option.bind_eq_none_iff.mpr fun _ _ => rfl

/-- The mounts that the calls outside every definition make. -/
def routerMountsOf (src : Source) (config : Config) (hint : Option String) (root : Node)
    (misfits : Misfits := {}) : List RouterMount :=
  (beforeMisfit (Node.mountMisfit? src misfits) (root.walk Node.isDefinition)).filterMap
    (Node.mount? src config hint)

/-- What finding the mounts meets. -/
def routerMountsMisfit? (src : Source) (misfits : Misfits) (root : Node) : Option Misfit :=
  (root.walk Node.isDefinition).findSome? (Node.mountMisfit? src misfits)

@[simp]
theorem routerMountsMisfit?_none (src : Source) (root : Node) :
    routerMountsMisfit? src {} root = none := by
  simp [routerMountsMisfit?]

end SourceFacts
