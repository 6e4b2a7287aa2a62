import SourceFacts.Call.Basic
import SourceFacts.Client.Address
import SourceFacts.Config
import SourceFacts.Misfit
import SourceFacts.Syntax.Expression
import SourceFacts.Text.Case

/-!
# Detecting outbound requests

A call counts when it was resolved through an import to a function of a client library that sends
a request.
-/

namespace SourceFacts

/-- The client library that a module belongs to. -/
def clientLibrary? (config : Config) (module : Option String) : Option String :=
  match module with
  | none => none
  | some m =>
    if m.isEmpty then none
    else config.httpClientLibraries.items.find? fun library => Text.isWithin library m

/-- What looking for the client library of a module meets. -/
def clientLibraryMisfit? (misfits : Misfits) (module : Option String) : Option Misfit :=
  module.bind fun m => if m.isEmpty then none else misfits.httpClientLibraries m

@[simp]
theorem clientLibraryMisfit?_none (module : Option String) :
    clientLibraryMisfit? {} module = none := by
  cases module <;> simp [clientLibraryMisfit?]

/-- The method that a request is sent with and the node of its address. The function `request`
takes the method as its first argument. -/
def requestOf? (src : Source) (config : Config) (function : String) (args : CallArguments) :
    Option (String × Option Node) :=
  if config.httpClientMethods.has function then
    some (Text.upper function, args.positional.head? <|> args.keywords.get? "url")
  else if function == "request" then do
    let method ← (args.positional.head? <|> args.keywords.get? "method").bind (stringText? src)
    guard (!method.content.isEmpty && config.httpClientMethods.has (Text.lower method.content))
    return (Text.upper method.content, args.positional[1]? <|> args.keywords.get? "url")
  else none

/-- The request that a call sends. -/
def CallSite.clientCall? (src : Source) (config : Config) (call : CallSite) (node : Node) :
    Option ClientCall := do
  guard (call.kind = .importQualified)
  let function ← call.targetSymbol
  guard (!function.isEmpty)
  let library ← clientLibrary? config call.targetModule
  let (method, address) ← requestOf? src config function (node.callArguments src)
  let (path, pathKind) := addressPath src address
  return {
    method, path, pathKind := pathKind.name, isAsync := call.isAwaited, library
    caller := call.caller, line := call.line, column := call.column
    expression := address.map src.text }

/-- What asking whether a call sends a request meets. The functions are looked up only for a call
of a client library. -/
def CallSite.clientMisfit? (config : Config) (misfits : Misfits) (call : CallSite) :
    Option Misfit := do
  guard (call.kind = .importQualified)
  let function ← call.targetSymbol
  guard (!function.isEmpty)
  clientLibraryMisfit? misfits call.targetModule <|>
    (clientLibrary? config call.targetModule).bind fun _ => misfits.httpClientMethods

@[simp]
theorem CallSite.clientMisfit?_none (config : Config) (call : CallSite) :
    call.clientMisfit? config {} = none := by
  refine Option.bind_eq_none_iff.mpr fun _ _ => ?_
  refine Option.bind_eq_none_iff.mpr fun function _ => ?_
  refine Option.bind_eq_none_iff.mpr fun _ _ => ?_
  simp

/-- The requests that some calls send. -/
def clientCallsOf (src : Source) (config : Config) (calls : List (CallSite × Node))
    (misfits : Misfits := {}) : List ClientCall :=
  (beforeMisfit (fun c => c.1.clientMisfit? config misfits) calls).filterMap fun (call, node) =>
    call.clientCall? src config node

/-- What finding the requests meets. -/
def clientCallsMisfit? (config : Config) (misfits : Misfits) (calls : List (CallSite × Node)) :
    Option Misfit :=
  calls.findSome? fun c => c.1.clientMisfit? config misfits

@[simp]
theorem clientCallsMisfit?_none (config : Config) (calls : List (CallSite × Node)) :
    clientCallsMisfit? config {} calls = none := by
  simp [clientCallsMisfit?]

end SourceFacts
