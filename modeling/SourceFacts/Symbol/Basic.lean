import SourceFacts.Decorator
import SourceFacts.Text.Dotted

/-!
# Symbols

Functions, methods and classes, and the variables of a module.
-/

namespace SourceFacts

/-- What a symbol is. -/
inductive SymbolKind where
  | function
  | method
  | cls
deriving DecidableEq

/-- The name of a kind. -/
def SymbolKind.name : SymbolKind → String
  | .function => "Function"
  | .method => "Method"
  | .cls => "Class"

/-- A definition of a function, a method or a class. -/
structure Symbol where
  name : String
  /-- The name with the names of the enclosing definitions before it. -/
  qualifiedName : String
  kind : SymbolKind
  line : Coordinate
  endLine : Coordinate
  column : Coordinate := some 0
  /-- The qualified name of the enclosing definition. -/
  parent : Option String := none
  decorators : List Decorator := []
  parameters : List String := []
  bases : List String := []
  hasDocstring : Bool := false
  docstring : Option String := none
  isAsync : Bool := false
  /-- The body only declares something. -/
  isStub : Bool := false
  /-- The parameter of a method that stands for the object. -/
  instanceParam : Option String := none
  returnType : Option String := none
  signature : Option String := none
  /-- The qualified names of the definitions directly inside. -/
  children : List String := []

/-- A name that a module binds by an assignment. -/
structure Variable where
  name : String
  line : Coordinate
  isConstant : Bool

namespace Symbol

/-- The name does not start with an underscore. -/
def isExported (s : Symbol) : Bool :=
  !Text.startsWith "_" s.name

/-- The names that the decorators apply. -/
def decoratorPaths (s : Symbol) : List String :=
  s.decorators.map (·.path)

/-- Some decorator has one of the names, or a name that ends in one of them. -/
def hasDecorator (s : Symbol) (names : List String) : Bool :=
  s.decoratorPaths.any fun path => names.contains path || names.contains (Text.lastPart path)

/-- The method is read as an attribute. -/
def isProperty (s : Symbol) : Bool :=
  s.hasDecorator ["property", "cached_property"] ||
    s.decoratorPaths.any fun path =>
      [".setter", ".getter", ".deleter"].any fun tail => Text.endsWith tail path

/-- The method belongs to the class. -/
def isClassMethod (s : Symbol) : Bool :=
  s.hasDecorator ["classmethod", "abstractclassmethod"]

/-- The method takes neither object nor class. -/
def isStaticMethod (s : Symbol) : Bool :=
  s.hasDecorator ["staticmethod", "abstractstaticmethod"]

end Symbol

end SourceFacts
