import SourceFacts.Digest.Sha256
import SourceFacts.Report.View

/-!
# Reports as tables

One table for each kind of fact. Symbols have identifiers that follow from their file and name
alone, and calls and endpoints refer to them.
-/

namespace SourceFacts

/-- What the cells of a column hold. -/
inductive ColumnType where
  | text
  | bool
  | int
  | texts
deriving DecidableEq

/-- The name of a type. -/
def ColumnType.name : ColumnType → String
  | .text => "String"
  | .bool => "Boolean"
  | .int => "Int64"
  | .texts => "List(String)"

/-- The columns and the rows of a table. Rows may have fields that are no column. -/
structure Table where
  name : String
  columns : List (String × ColumnType)
  rows : List Document.Fields := []

/-- The cells of the rows in the order of the columns. -/
def Table.cells (t : Table) : List (List Document) :=
  t.rows.map fun row => t.columns.map fun column => Document.fieldOf row column.1

/-- Why a whole number cannot be a cell. -/
inductive CellError where
  /-- The number is beyond 64 bits. -/
  | outOfRange (n : Int)
  /-- The number is beyond 128 bits. -/
  | tooLarge (n : Int)

/-- The report of an error. -/
def CellError.message : CellError → String
  | .outOfRange n =>
    s!"could not append value: {n} of type: i128 to the builder; make sure that all rows have " ++
      "the same schema or consider increasing `infer_schema_length`\n\n" ++
      "it might also be that a value overflows the data-type's capacity"
  | .tooLarge n => s!"int value too large for Polars integer types: {n}"

/-- The number has that many bits, its sign included. -/
def fitsBits (bits : Nat) (n : Int) : Bool :=
  let bound : Int := Nat.pow 2 (bits - 1)
  decide (-bound ≤ n) && decide (n < bound)

/-- The first number, row by row, that cannot be a cell. Numbers beyond 128 bits come first. -/
def Table.overflow? (t : Table) : Option CellError :=
  let numbers := t.cells.flatten.filterMap Document.int?
  ((numbers.find? fun n => !fitsBits 128 n).map .tooLarge) <|>
    ((numbers.find? fun n => !fitsBits 64 n).map .outOfRange)

/-- The identifier of a symbol. -/
def symbolId (file name : String) : String :=
  "sym_" ++ String.ofList ((Digest.sha256 (Text.Utf8.encode (file ++ "::" ++ name))).toList.take 12)

/-- The identifier of a symbol that is referred to; the module itself has none. -/
def referredId? (file name : String) : Option String :=
  if name.isEmpty || name == moduleScope then none else some (symbolId file name)

namespace Report

open Document (nat optional texts)

/-- The row of a file. -/
def fileRow (f : FileFacts) : Document.Fields :=
  [("path", .text f.path),
   ("module", .text f.module),
   ("content_hash", .text f.contentHash),
   ("is_test_file", .bool f.isTestFile),
   ("import_count", nat f.imports.length)]

/-- The row of a symbol. -/
def symbolRow (file : String) (s : Symbol) : Document.Fields :=
  [("id", .text (symbolId file s.qualifiedName)),
   ("file", .text file),
   ("path", .text s.qualifiedName),
   ("name", .text s.name),
   ("kind", .text s.kind.name),
   ("parent", optional .text s.parent),
   ("line", optional .int s.line),
   ("end_line", optional .int s.endLine),
   ("decorators", texts s.decoratorPaths),
   ("bases", texts s.bases),
   ("has_docstring", .bool s.hasDocstring),
   ("is_async", .bool s.isAsync),
   ("is_exported", .bool s.isExported),
   ("is_property", .bool s.isProperty),
   ("is_classmethod", .bool s.isClassMethod),
   ("is_staticmethod", .bool s.isStaticMethod)]

/-- The identifier of the symbol that a call reaches in its own file. -/
def targetId? (file : String) (c : CallSite) : Option String :=
  match c.targetModule, c.targetSymbol with
  | none, some target => referredId? file target
  | _, _ => none

/-- The row of a call. -/
def callRow (file : String) (c : CallSite) : Document.Fields :=
  [("file", .text file),
   ("caller", .text c.caller),
   ("caller_id", optional .text (referredId? file c.caller)),
   ("callee", .text c.callee),
   ("kind", .text c.kind.name),
   ("target_module", optional .text c.targetModule),
   ("target_symbol", optional .text c.targetSymbol),
   ("target_id", optional .text (targetId? file c)),
   ("line", optional .int c.line),
   ("is_awaited", .bool c.isAwaited),
   ("is_builtin", .bool c.isBuiltin),
   ("receiver", optional .text c.receiver)]

/-- The row of an endpoint. -/
def endpointRow (file : String) (e : Endpoint) : Document.Fields :=
  ("file", .text file) :: e.fields ++ [("handler_id", .text (symbolId file e.handler))]

/-- The row of a request. -/
def clientCallRow (file : String) (c : ClientCall) : Document.Fields :=
  [("file", .text file),
   ("method", .text c.method),
   ("path", optional .text c.path),
   ("path_kind", .text c.pathKind),
   ("is_async", .bool c.isAsync),
   ("library", .text c.library),
   ("caller", .text c.caller),
   ("line", optional .int c.line)]

/-- The row of a protocol. -/
def protocolRow (file : String) (p : Protocol) : Document.Fields :=
  [("file", .text file),
   ("name", .text p.name),
   ("required_members", texts p.requiredMembers),
   ("runtime_checkable", .bool p.runtimeCheckable),
   ("line", optional .int p.line)]

/-- The row of an implementer. -/
def implementerRow (file : String) (i : Implementer) : Document.Fields :=
  [("file", .text file),
   ("protocol", .text i.protocol),
   ("class", .text i.className),
   ("match_kind", .text i.matchKind.name),
   ("line", optional .int i.line)]

/-- The rows of one kind of fact over all files. -/
def rowsOf {α : Type} (r : Report) (facts : FileFacts → List α)
    (row : String → α → Document.Fields) : List Document.Fields :=
  r.files.flatMap fun f => (facts f).map (row f.path)

/-- The row of a fact with the fields of its record. -/
def plainRow {α : Type} (fields : α → Document.Fields) (file : String) (a : α) : Document.Fields :=
  ("file", .text file) :: fields a

/-- The tables of a report. -/
def tables (r : Report) : List Table :=
  [{ name := "files"
     columns :=
      [("path", .text), ("module", .text), ("content_hash", .text), ("is_test_file", .bool),
       ("import_count", .int)]
     rows := r.files.map fileRow },
   { name := "imports"
     columns :=
      [("file", .text), ("local_name", .text), ("origin_module", .text), ("origin_symbol", .text),
       ("line", .int)]
     rows := r.rowsOf (·.imports) (plainRow Import.fields) },
   { name := "symbols"
     columns :=
      [("id", .text), ("file", .text), ("path", .text), ("name", .text), ("kind", .text),
       ("parent", .text), ("line", .int), ("end_line", .int), ("decorators", .texts),
       ("bases", .texts), ("has_docstring", .bool), ("is_async", .bool), ("is_exported", .bool),
       ("is_property", .bool), ("is_classmethod", .bool), ("is_staticmethod", .bool)]
     rows := r.rowsOf (·.symbols) symbolRow },
   { name := "calls"
     columns :=
      [("file", .text), ("caller", .text), ("caller_id", .text), ("callee", .text),
       ("kind", .text), ("target_module", .text), ("target_symbol", .text), ("target_id", .text),
       ("line", .int), ("is_awaited", .bool), ("is_builtin", .bool), ("receiver", .text)]
     rows := r.rowsOf (·.calls) callRow },
   { name := "endpoints"
     columns :=
      [("file", .text), ("method", .text), ("path", .text), ("handler", .text),
       ("handler_id", .text), ("framework", .text), ("router", .text), ("line", .int)]
     rows := r.rowsOf (·.endpoints) endpointRow },
   { name := "router_mounts"
     columns :=
      [("file", .text), ("app", .text), ("router", .text), ("prefix", .text),
       ("framework", .text), ("line", .int)]
     rows := r.rowsOf (·.routerMounts) (plainRow RouterMount.fields) },
   { name := "client_calls"
     columns :=
      [("file", .text), ("method", .text), ("path", .text), ("path_kind", .text),
       ("is_async", .bool), ("library", .text), ("caller", .text), ("line", .int)]
     rows := r.rowsOf (·.clientCalls) clientCallRow },
   { name := "protocols"
     columns :=
      [("file", .text), ("name", .text), ("required_members", .texts),
       ("runtime_checkable", .bool), ("line", .int)]
     rows := r.rowsOf (·.protocols) protocolRow },
   { name := "implementers"
     columns :=
      [("file", .text), ("protocol", .text), ("class", .text), ("match_kind", .text),
       ("line", .int)]
     rows := r.rowsOf (·.implementers) implementerRow },
   { name := "tests"
     columns :=
      [("file", .text), ("symbol", .text), ("kind", .text), ("owner", .text), ("line", .int)]
     rows := r.rowsOf (·.tests) (plainRow TestCase.fields) },
   { name := "diagnostics"
     columns := [("file", .text), ("stage", .text), ("line", .int), ("message", .text)]
     rows := r.diagnostics.map Diagnostic.fields }]

end Report

end SourceFacts
