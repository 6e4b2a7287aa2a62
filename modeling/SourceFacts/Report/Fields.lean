import SourceFacts.Document
import SourceFacts.File.Basic

/-!
# Facts as records

The fields under which each fact is given out.
-/

namespace SourceFacts

open Document (optional texts)

/-- The fields of an import. -/
def Import.fields (i : Import) : Document.Fields :=
  [("local_name", .text i.localName),
   ("origin_module", .text i.originModule),
   ("origin_symbol", optional .text i.originSymbol),
   ("is_aliased", .bool i.isAliased),
   ("line", optional .int i.line)]

/-- The fields of a symbol. -/
def Symbol.fields (s : Symbol) : Document.Fields :=
  [("path", .text s.qualifiedName),
   ("name", .text s.name),
   ("kind", .text s.kind.name),
   ("parent", optional .text s.parent),
   ("line", optional .int s.line),
   ("end_line", optional .int s.endLine),
   ("decorators", texts s.decoratorPaths),
   ("bases", texts s.bases),
   ("parameters", texts s.parameters),
   ("has_docstring", .bool s.hasDocstring),
   ("is_async", .bool s.isAsync),
   ("is_exported", .bool s.isExported),
   ("is_property", .bool s.isProperty),
   ("is_classmethod", .bool s.isClassMethod),
   ("is_staticmethod", .bool s.isStaticMethod),
   ("signature", optional .text s.signature)]

/-- The fields of a variable. -/
def Variable.fields (v : Variable) : Document.Fields :=
  [("name", .text v.name),
   ("line", optional .int v.line),
   ("kind", .text (if v.isConstant then "Constant" else "Variable"))]

/-- What a call was resolved to. -/
def CallSite.target (c : CallSite) : Document :=
  match c.kind with
  | .unresolved => .null
  | _ =>
    .record [("module", optional .text c.targetModule), ("symbol", optional .text c.targetSymbol)]

/-- The fields of a call. -/
def CallSite.fields (c : CallSite) : Document.Fields :=
  [("caller", .text c.caller),
   ("callee", .text c.callee),
   ("kind", .text c.kind.name),
   ("target", c.target),
   ("line", optional .int c.line),
   ("column", optional .int c.column),
   ("is_awaited", .bool c.isAwaited),
   ("is_builtin", .bool c.isBuiltin),
   ("receiver", optional .text c.receiver)]

/-- The fields of an endpoint. -/
def Endpoint.fields (e : Endpoint) : Document.Fields :=
  [("method", .text e.method),
   ("path", .text e.path),
   ("handler", .text e.handler),
   ("framework", .text e.framework),
   ("router", optional .text e.router),
   ("line", optional .int e.line)]

/-- The fields of a mount. -/
def RouterMount.fields (m : RouterMount) : Document.Fields :=
  [("app", .text m.app),
   ("router", optional .text m.router),
   ("prefix", optional .text m.pathStart),
   ("framework", .text m.framework),
   ("line", optional .int m.line)]

/-- The fields of a request. -/
def ClientCall.fields (c : ClientCall) : Document.Fields :=
  [("method", .text c.method),
   ("path", optional .text c.path),
   ("path_kind", .text c.pathKind),
   ("isAsync", .bool c.isAsync),
   ("library", .text c.library),
   ("caller", .text c.caller),
   ("line", optional .int c.line)]

/-- The fields of a protocol. -/
def Protocol.fields (p : Protocol) : Document.Fields :=
  [("name", .text p.name),
   ("requiredMembers", texts p.requiredMembers),
   ("line", optional .int p.line),
   ("declares_protocol", .bool p.declaresProtocol),
   ("runtime_checkable", .bool p.runtimeCheckable)]

/-- The fields of an implementer. -/
def Implementer.fields (i : Implementer) : Document.Fields :=
  [("protocol", .text i.protocol),
   ("class", .text i.className),
   ("matchKind", .text i.matchKind.name),
   ("line", optional .int i.line)]

/-- The fields of a test. -/
def TestCase.fields (t : TestCase) : Document.Fields :=
  [("symbol", .text t.symbol),
   ("kind", .text t.kind.name),
   ("owner", .text t.owner),
   ("line", optional .int t.line)]

/-- The fields of a diagnostic. -/
def Diagnostic.fields (d : Diagnostic) : Document.Fields :=
  [("file", .text d.file),
   ("message", .text d.message),
   ("line", optional .int d.line),
   ("stage", .text d.stage)]

/-- Records of some facts. -/
def Document.records {α : Type} (fields : α → Document.Fields) (l : List α) : Document :=
  .list (l.map fun a => .record (fields a))

namespace FileFacts

/-- What is said of a file itself. -/
def headFields (f : FileFacts) : Document.Fields :=
  [("path", .text f.path),
   ("module", .text f.module),
   ("content_hash", .text f.contentHash),
   ("docstring", optional .text f.docstring),
   ("is_test_file", .bool f.isTestFile),
   ("imports", .records Import.fields f.imports),
   ("variables", .records Variable.fields f.moduleVariables)]

/-- All facts of a file. -/
def fields (f : FileFacts) : Document.Fields :=
  f.headFields ++
  [("symbols", .records Symbol.fields f.symbols),
   ("calls", .records CallSite.fields f.calls),
   ("endpoints", .records Endpoint.fields f.endpoints),
   ("router_mounts", .records RouterMount.fields f.routerMounts),
   ("client_calls", .records ClientCall.fields f.clientCalls),
   ("protocols", .records Protocol.fields f.protocols),
   ("implementers", .records Implementer.fields f.implementers),
   ("tests", .records TestCase.fields f.tests),
   ("diagnostics", .records Diagnostic.fields f.diagnostics)]

end FileFacts

end SourceFacts
