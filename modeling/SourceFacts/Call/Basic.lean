import SourceFacts.Coordinate

/-!
# Call sites

A call expression with the scope that makes it and what it was resolved to.
-/

namespace SourceFacts

/-- How a call was resolved. -/
inductive CallKind where
  | sameFile
  | importQualified
  | selfMethod
  | unresolved
deriving DecidableEq

/-- The name of a kind. -/
def CallKind.name : CallKind → String
  | .sameFile => "SameFileCall"
  | .importQualified => "ImportQualifiedCall"
  | .selfMethod => "SelfMethodCall"
  | .unresolved => "Unresolved"

/-- All kinds in the order in which they are counted. -/
def CallKind.all : List CallKind :=
  [.sameFile, .importQualified, .selfMethod, .unresolved]

/-- The caller of what runs at module level. -/
def moduleScope : String := "<module>"

/-- A call expression. -/
structure CallSite where
  /-- The qualified name of the scope that makes the call. -/
  caller : String
  /-- The text of what is called. -/
  callee : String
  kind : CallKind
  line : Coordinate
  column : Coordinate
  targetModule : Option String := none
  targetSymbol : Option String := none
  /-- The call is awaited or opens an asynchronous context. -/
  isAwaited : Bool := false
  isBuiltin : Bool := false
  /-- The name bound by a `with` statement through which the call goes. -/
  receiver : Option String := none

/-- The functions that need no definition. -/
def builtinNames : List String :=
  ["print", "len", "range", "int", "str", "list", "dict", "set", "tuple", "type", "isinstance",
   "issubclass", "super", "property", "staticmethod", "classmethod", "enumerate", "zip", "map",
   "filter", "sorted", "reversed", "any", "all", "min", "max", "sum", "abs", "round", "open",
   "getattr", "setattr", "hasattr", "delattr", "input", "format", "repr", "id", "dir", "vars",
   "globals", "locals", "callable", "iter", "next", "hash", "hex", "oct", "bin", "ord", "chr",
   "bool", "bytes", "bytearray", "memoryview", "complex", "float", "frozenset", "object", "slice",
   "divmod", "pow", "exec", "eval", "compile", "breakpoint", "aiter", "anext", "ascii",
   "__import__"]

end SourceFacts
