import SourceFacts.Diagnostic
import SourceFacts.Dictionary
import SourceFacts.Import.Basic
import SourceFacts.Syntax.Source
import SourceFacts.Syntax.Walk
import SourceFacts.Text.Quoted

/-!
# Import statements

What the import statements of a file bind: those outside every definition at module level, those in
the body of a function for that function alone. A malformed statement binds nothing and gives a
diagnostic.
-/

namespace SourceFacts

/-- What one import statement gives. -/
structure ImportReading where
  bindings : List Import := []
  wildcards : List String := []
  diagnostics : List Diagnostic := []

/-- What the import statements of a file give. The maps of functions are found by the offset at
which the function's definition starts. -/
structure FileImports where
  imports : List Import := []
  moduleMap : ImportMap := {}
  localMaps : Dictionary Nat ImportMap := {}
  diagnostics : List Diagnostic := []

/-- The node is an import statement. -/
def Node.isImport (n : Node) : Bool :=
  n.kind == "import_statement" || n.kind == "import_from_statement"

namespace ImportReading

variable (src : Source) (file : String)

/-- A problem with an import statement. -/
def problem (statement : Node) (message : String) : Diagnostic :=
  { file, message, line := some (src.line statement), stage := Stage.imports.name }

/-- The name and the alias of an import under another name; both must be there. -/
def alias? (n : Node) : Option (String × String) :=
  let name := src.textOf (n.child? "name")
  let given := src.textOf (n.child? "alias")
  if name.isEmpty || given.isEmpty then none else some (name, given)

/-- What one of the names of a statement binds; `module` is the module of a `from` statement. -/
def binding? (line : Coordinate) (module : Option String) (n : Node) : Option Import :=
  if n.kind == "aliased_import" then
    (alias? src n).map fun (name, given) =>
      match module with
      | none => { localName := given, originModule := name, isAliased := true, line }
      | some m =>
        { localName := given, originModule := m, originSymbol := some name, isAliased := true, line }
  else
    match module with
    | none =>
      let top := Text.firstPart (src.text n)
      some { localName := top, originModule := top, line }
    | some m => some { localName := src.text n, originModule := m, originSymbol := some (src.text n), line }

/-- What the names of a statement bind, with a diagnostic for each alias without a name and one,
`empty`, when nothing is bound. -/
def ofNames (statement : Node) (module : Option String) (empty : String) : ImportReading :=
  let line := some (src.line statement : Int)
  let read := (statement.childrenWith "name").map (binding? src line module)
  let bindings := read.filterMap id
  let nameless := (read.filter Option.isNone).map fun _ =>
    problem src file statement "skipped aliased import without a name"
  let nothing := if bindings.isEmpty then [problem src file statement empty] else []
  { bindings, diagnostics := nameless ++ nothing }

/-- What an import statement gives. -/
def ofStatement (statement : Node) : ImportReading :=
  if statement.label.hasError then
    { diagnostics :=
        [problem src file statement s!"skipped malformed import: {Text.quoted (src.text statement)}"] }
  else if statement.kind == "import_statement" then
    ofNames src file statement none "skipped import without module names"
  else
    match statement.child? "module_name" with
    | none => { diagnostics := [problem src file statement "skipped from-import without a module"] }
    | some moduleNode =>
      let module := src.text moduleNode
      if statement.hasChild "wildcard_import" then { wildcards := [module] }
      else ofNames src file statement (some module) s!"skipped from-import of {module} without names"

end ImportReading

/-- Takes what a statement gives into a map. -/
def ImportMap.take (m : ImportMap) (r : ImportReading) : ImportMap :=
  let m := r.wildcards.foldl ImportMap.addWildcard m
  r.bindings.foldl ImportMap.add m

/-- The import statements met from a node on outside the definitions below it. -/
def Node.importsWithin (n : Node) : List Node :=
  (n.walk Node.isDefinition).filter Node.isImport

/-- What a function's import statements give, with the offset of the function; `none` without a
body. -/
def localImports? (src : Source) (file : String) (function : Node) :
    Option (Nat × List ImportReading) :=
  (function.child? "body").map fun body =>
    (function.start, body.importsWithin.map (ImportReading.ofStatement src file))

/-- The functions of a tree in pre-order. -/
def Node.functions (root : Node) : List Node :=
  root.preorder.filter fun n => n.kind == "function_definition"

/-- What the import statements of a file give. -/
def FileImports.ofTree (src : Source) (file : String) (root : Node) : FileImports :=
  let top := root.importsWithin.map (ImportReading.ofStatement src file)
  let inner := root.functions.filterMap (localImports? src file)
  let maps := inner.map fun (start, rs) => (start, rs.foldl ImportMap.take {})
  { imports := top.flatMap (·.bindings)
    moduleMap := top.foldl ImportMap.take {}
    localMaps := Dictionary.ofList (maps.filter fun e => !e.2.isEmpty)
    diagnostics := (top ++ inner.flatMap (·.2)).flatMap (·.diagnostics) }

end SourceFacts
