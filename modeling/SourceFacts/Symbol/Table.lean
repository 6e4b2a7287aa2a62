import SourceFacts.Diagnostic
import SourceFacts.Dictionary
import SourceFacts.Symbol.Basic
import SourceFacts.Symbol.Stub
import SourceFacts.Text.Case
import SourceFacts.Text.Letter

/-!
# The symbol table of a file

The statements of a module are visited with those of the blocks in them, and of the bodies of the
definitions; expressions are not. Each definition with a name gives one symbol.
-/

namespace SourceFacts

/-- Statements without statements inside. -/
def simpleStatements : List String :=
  ["expression_statement", "return_statement", "pass_statement", "import_statement",
   "import_from_statement", "future_import_statement", "raise_statement", "assert_statement",
   "delete_statement", "global_statement", "nonlocal_statement", "break_statement",
   "continue_statement", "print_statement", "exec_statement", "type_alias_statement"]

/-- Statements with blocks inside, and the clauses of such statements. -/
def compoundStatements : List String :=
  ["if_statement", "for_statement", "while_statement", "try_statement", "with_statement",
   "match_statement", "elif_clause", "else_clause", "except_clause", "except_group_clause",
   "finally_clause", "case_clause"]

/-- The name has letters and none of them is lower case. -/
def isConstantName (name : String) : Bool :=
  name.toList.any Text.isLetter && name == Text.upper name

/-- The name of a parameter; separators have none. -/
def Node.parameterName? (src : Source) (n : Node) : Option String :=
  if n.kind == "identifier" then some (src.text n)
  else if n.kind == "default_parameter" || n.kind == "typed_default_parameter" then
    some (src.textOf (n.child? "name"))
  else if n.kind == "typed_parameter" then n.contents.head?.map src.text
  else if n.kind == "list_splat_pattern" || n.kind == "dictionary_splat_pattern" then
    some (src.text n)
  else none

/-- The names of the parameters of a list. -/
def Node.parameterNames (src : Source) : Option Node → List String
  | some list => list.contents.filterMap (·.parameterName? src)
  | none => []

/-- What some statements define. -/
structure Definitions where
  /-- The symbols in order, each with the offset at which its definition starts. -/
  symbols : List (Nat × Symbol) := []
  /-- The qualified names of the symbols that lie in no other of these symbols. -/
  direct : List String := []
  moduleVariables : List Variable := []
  diagnostics : List Diagnostic := []

namespace Definitions

/-- What two groups of statements define, one after the other. -/
def append (a b : Definitions) : Definitions where
  symbols := a.symbols ++ b.symbols
  direct := a.direct ++ b.direct
  moduleVariables := a.moduleVariables ++ b.moduleVariables
  diagnostics := a.diagnostics ++ b.diagnostics

instance : Append Definitions := ⟨append⟩

variable (src : Source) (file : String)

/-- Nothing but a problem with a node. -/
def problem (n : Node) (message : String) : Definitions where
  diagnostics := [{ file, message, line := some (src.line n), stage := Stage.symbols.name }]

/-- The name inside an enclosing definition. -/
def qualify (parent : Option Symbol) (name : String) : String :=
  match parent with
  | some p => p.qualifiedName ++ "." ++ name
  | none => name

/-- How a function is written, without its body. -/
def signature (isAsync : Bool) (name parameters : String) (returnType : Option String) : String :=
  let head := (if isAsync then "async def " else "def ") ++ name ++
    (if parameters.isEmpty then "()" else parameters)
  match returnType with
  | some t => head ++ " -> " ++ t
  | none => head

/-- The first parameter of a method stands for the object unless it collects arguments or the
method is static. -/
def instanceParam? (isMethod isStatic : Bool) (parameters : List String) : Option String :=
  match parameters with
  | first :: _ => if isMethod && !isStatic && !Text.startsWith "*" first then some first else none
  | [] => none

/-- The symbol of a function, without what its body defines. -/
def functionSymbol (parent : Option Symbol) (decorators : List Decorator) (name : String)
    (n : Node) : Symbol :=
  let isMethod := parent.any fun p => p.kind == .cls
  let parametersNode := n.child? "parameters"
  let parameters := Node.parameterNames src parametersNode
  let returnType := nonEmpty? (src.textOf (n.child? "return_type"))
  let isAsync := n.hasChild "async"
  let body := n.child? "body"
  let docstring := body.bind (·.docstring? src)
  let symbol : Symbol :=
    { name
      qualifiedName := qualify parent name
      kind := if isMethod then .method else .function
      line := some (src.line n)
      endLine := some (src.endLine n)
      column := some (src.column n)
      parent := parent.map (·.qualifiedName)
      decorators
      parameters
      hasDocstring := docstring.isSome
      docstring
      isAsync
      isStub := body.any (·.isStubBody src)
      returnType
      signature := some (signature isAsync name (src.textOf parametersNode) returnType) }
  { symbol with instanceParam := instanceParam? isMethod symbol.isStaticMethod parameters }

/-- The texts of the bases of a class; keywords and spread arguments are none. -/
def baseTexts (n : Node) : List String :=
  match n.child? "superclasses" with
  | some list =>
    (list.contents.filter fun b => b.kind != "keyword_argument" && !b.isSplat).map src.text
  | none => []

/-- The symbol of a class, without what its body defines. -/
def classSymbol (parent : Option Symbol) (decorators : List Decorator) (name : String)
    (n : Node) : Symbol :=
  let body := n.child? "body"
  let docstring := body.bind (·.docstring? src)
  { name
    qualifiedName := qualify parent name
    kind := .cls
    line := some (src.line n)
    endLine := some (src.endLine n)
    column := some (src.column n)
    parent := parent.map (·.qualifiedName)
    decorators
    bases := baseTexts src n
    hasDocstring := docstring.isSome
    docstring
    isStub := body.any Node.isDeclarativeBody }

/-- The name of a definition, if the source has one. -/
def givenName? (n : Node) : Option String :=
  match n.child? "name" with
  | some name => if name.label.isMissing then none else some (src.text name)
  | none => none

/-- What a definition of a function or a class gives; `inside` is what its body gives. -/
def define (parent : Option Symbol) (decorators : List Decorator) (n : Node)
    (inside : Symbol → Definitions) : Definitions :=
  let isFunction := n.kind == "function_definition"
  match givenName? src n with
  | none =>
    problem src file n
      (if isFunction then "skipped function definition without a name"
       else "skipped class definition without a name")
  | some name =>
    let symbol :=
      if isFunction then functionSymbol src parent decorators name n
      else classSymbol src parent decorators name n
    let inner := inside symbol
    { inner with
      symbols := (n.start, { symbol with children := inner.direct }) :: inner.symbols
      direct := [symbol.qualifiedName] }

/-- The variable that a statement of a module binds. -/
def moduleVariable (n : Node) : Definitions :=
  match n.contents.head? with
  | some e =>
    if e.kind == "assignment" then
      match e.child? "left" with
      | some target =>
        if target.kind == "identifier" then
          let name := src.text target
          { moduleVariables := [⟨name, some (src.line n), isConstantName name⟩] }
        else {}
      | none => {}
    else {}
  | none => {}

/-- The kind of a plain definition. -/
def isPlainDefinition (kind : String) : Bool :=
  kind == "function_definition" || kind == "class_definition"

mutual

/-- What a statement defines. A lenient visit does not mind statements that it does not know. -/
def ofStatement (parent : Option Symbol) (lenient : Bool) : Node → Definitions
  | .node l cs =>
    if isPlainDefinition l.kind then
      define src file parent [] (.node l cs) fun s => ofBody s cs
    else if l.kind == "decorated_definition" then
      ofDecorated parent (.node l cs) cs
    else if compoundStatements.contains l.kind then
      ofClauses parent cs
    else if l.kind == "expression_statement" then
      if parent.isNone then moduleVariable src (.node l cs) else {}
    else if l.kind == "ERROR" then
      ofStatements parent true cs
    else if simpleStatements.contains l.kind || lenient then {}
    else problem src file (.node l cs) s!"skipped unrecognized statement '{l.kind}'"

/-- What the content among some nodes defines. -/
def ofStatements (parent : Option Symbol) (lenient : Bool) : List Node → Definitions
  | [] => {}
  | n :: ns =>
    (if n.isContent then ofStatement parent lenient n else {}) ++ ofStatements parent lenient ns

/-- What the statements of a block define. -/
def ofBlock (parent : Option Symbol) : Node → Definitions
  | .node _ cs => ofStatements parent false cs

/-- What the body of a definition defines: the first of the nodes that is a `body`. -/
def ofBody (parent : Symbol) : List Node → Definitions
  | [] => {}
  | n :: ns => if n.hasField "body" then ofBlock (some parent) n else ofBody parent ns

/-- What the blocks and the clauses of a compound statement define. -/
def ofClauses (parent : Option Symbol) : List Node → Definitions
  | [] => {}
  | n :: ns =>
    (if n.isContent then
      if n.kind == "block" then ofBlock parent n
      else if compoundStatements.contains n.kind then ofStatement parent false n
      else {}
    else {}) ++ ofClauses parent ns

/-- What a decorated definition defines: the first of the nodes that is a `definition`. -/
def ofDecorated (parent : Option Symbol) (whole : Node) : List Node → Definitions
  | [] => problem src file whole "skipped decorated statement without a definition"
  | n :: ns =>
    if n.hasField "definition" then ofDefinition parent (whole.decorators src) n
    else ofDecorated parent whole ns

/-- What the definition under some decorators defines. -/
def ofDefinition (parent : Option Symbol) (decorators : List Decorator) : Node → Definitions
  | .node l cs =>
    if isPlainDefinition l.kind then
      define src file parent decorators (.node l cs) fun s => ofBody s cs
    else {}

end

/-- What the statements of a module define. -/
def ofModule (root : Node) : Definitions :=
  ofStatements src file none false root.children

/-- The symbols by the offsets of their definitions; the last of several at one offset. -/
def byOffset (d : Definitions) : Dictionary Nat Symbol :=
  Dictionary.ofList d.symbols

end Definitions

end SourceFacts
