import SourceFacts.Config
import SourceFacts.Misfit
import SourceFacts.Path
import SourceFacts.Symbol.Index
import SourceFacts.Text.Glob

/-!
# Tests

Functions of a module and methods of classes are tests by the way their names begin.
-/

namespace SourceFacts

/-- What a test is. -/
inductive TestKind where
  | function
  | method
deriving DecidableEq

/-- The name of a kind. -/
def TestKind.name : TestKind → String
  | .function => "TestFunction"
  | .method => "TestMethod"

/-- A test with the module or the class that it belongs to. -/
structure TestCase where
  symbol : String
  kind : TestKind
  owner : String
  line : Coordinate

/-- The name of the file at a path is one of a file with tests. -/
def isTestFile (config : Config) (path : String) : Bool :=
  config.testFilePatterns.items.any fun pattern => Text.Glob.accepts pattern (Path.parse path).name

/-- What comparing the name of a file with the patterns meets. -/
def testFileMisfit? (misfits : Misfits) (path : String) : Option Misfit :=
  misfits.testFilePatterns (Path.parse path).name

@[simp]
theorem testFileMisfit?_none (path : String) : testFileMisfit? {} path = none := rfl

/-- The test that a symbol is. -/
def Symbol.testCase? (config : Config) (module : String) (index : SymbolIndex) (s : Symbol) :
    Option TestCase :=
  if config.testFunctionStarts.begin s.name then
    match s.kind, s.parent with
    | .function, none =>
      some { symbol := s.qualifiedName, kind := .function, owner := module, line := s.line }
    | .method, parent =>
      ((index.get? parent).filter fun c => config.testClassStarts.begin c.name).map fun c =>
        { symbol := s.qualifiedName, kind := .method, owner := c.qualifiedName, line := s.line }
    | _, _ => none
  else none

/-- What asking whether a symbol is a test meets. The name of a class is compared only for a method
that is named like a test. -/
def Symbol.testMisfit? (config : Config) (misfits : Misfits) (index : SymbolIndex) (s : Symbol) :
    Option Misfit :=
  misfits.testFunctionStarts s.name <|>
    if config.testFunctionStarts.begin s.name && decide (s.kind = .method) then
      (index.get? s.parent).bind fun c => misfits.testClassStarts c.name
    else none

@[simp]
theorem Symbol.testMisfit?_none (config : Config) (index : SymbolIndex) (s : Symbol) :
    s.testMisfit? config {} index = none := by
  simp [Symbol.testMisfit?]

/-- The tests among the symbols of a module. -/
def testCasesOf (config : Config) (module : String) (symbols : List Symbol)
    (misfits : Misfits := {}) : List TestCase :=
  let index := SymbolIndex.ofSymbols symbols
  (beforeMisfit (Symbol.testMisfit? config misfits index) symbols).filterMap
    (Symbol.testCase? config module index)

/-- What finding the tests meets. -/
def testCasesMisfit? (config : Config) (misfits : Misfits) (symbols : List Symbol) :
    Option Misfit :=
  symbols.findSome? (Symbol.testMisfit? config misfits (SymbolIndex.ofSymbols symbols))

@[simp]
theorem testCasesMisfit?_none (config : Config) (symbols : List Symbol) :
    testCasesMisfit? config {} symbols = none := by
  simp [testCasesMisfit?]

end SourceFacts
