import SourceFacts.Text.Dotted

/-!
# Configurations

The naming conventions that the analysis recognises.
-/

namespace SourceFacts

/-- The words of a setting: several words, or a single text. Every part of a single text counts as
one of its words. -/
inductive Words where
  | many (words : List String)
  | one (text : String)

namespace Words

/-- The characters occur one after the other in the text. -/
def occursIn (part : List Char) : List Char → Bool
  | [] => part.isEmpty
  | c :: cs => part.isPrefixOf (c :: cs) || occursIn part cs

/-- The word is one of the words. -/
def has : Words → String → Bool
  | .many words, word => words.contains word
  | .one text, word => occursIn word.toList text.toList

/-- The words one by one; a single text gives its characters. -/
def items : Words → List String
  | .many words => words
  | .one text => text.toList.map fun c => String.ofList [c]

/-- One of the words begins the name. -/
def begin : Words → String → Bool
  | .many words, name => words.any fun word => Text.startsWith word name
  | .one text, name => Text.startsWith text name

end Words

/-- The conventions that an analysis goes by. -/
structure Config where
  /-- The attribute that binds a route to several methods. -/
  routeDecorator : String := "route"
  /-- The attributes that bind a route to one method. -/
  routeVerbs : Words := .many ["get", "post", "put", "delete", "patch"]
  /-- The methods that mount a router. -/
  routerMountMethods : Words := .many ["include_router", "register_blueprint"]
  /-- The packages whose calls are outbound requests. -/
  httpClientLibraries : Words := .many ["requests", "httpx", "aiohttp"]
  /-- The functions of these packages that send a request. -/
  httpClientMethods : Words :=
    .many ["get", "post", "put", "delete", "patch", "head", "options"]
  /-- How the names of tests begin. -/
  testFunctionStarts : Words := .many ["test"]
  /-- How the names of classes of tests begin. -/
  testClassStarts : Words := .many ["Test"]
  /-- Patterns for the names of files with tests. -/
  testFilePatterns : Words := .many ["test_*.py", "*_test.py"]
  /-- Patterns for the parts of paths that are left out. -/
  excludePatterns : Words :=
    .many ["__pycache__", ".pytest_cache", "htmlcov", "dist", "build", ".git", ".venv", "venv",
      ".tox", "node_modules"]
  /-- The number of workers, if it is fixed. -/
  maxWorkers : Option Int := none

end SourceFacts
