import SourceFacts.Dictionary
import SourceFacts.Symbol.Basic
import SourceFacts.Text.Blank
import SourceFacts.Text.Identifier

/-!
# Looking symbols up

Tables over the symbols of a file. Of several definitions of a name the last one counts; a class
named as a base is looked for at module level first.
-/

namespace SourceFacts

/-- The tables over a list of symbols. -/
structure SymbolIndex where
  /-- Symbols by qualified name. -/
  byName : Dictionary String Symbol := {}
  /-- Symbols by the enclosing definition and their name. -/
  children : Dictionary (Option String) (Dictionary String Symbol) := {}
  /-- Classes by name. -/
  classes : Dictionary String Symbol := {}

namespace SymbolIndex

/-- Enters a symbol; of several classes of one name the first one is kept. -/
def add (index : SymbolIndex) (s : Symbol) : SymbolIndex where
  byName := index.byName.put s.qualifiedName s
  children :=
    index.children.put s.parent (((index.children.get? s.parent).getD {}).put s.name s)
  classes := if s.kind = .cls then index.classes.putNew s.name s else index.classes

/-- Lets a class of the module take precedence. -/
def prefer (index : SymbolIndex) (s : Symbol) : SymbolIndex :=
  if s.kind = .cls ∧ s.parent = none then
    { index with classes := index.classes.put s.name s }
  else index

/-- The tables over a list of symbols. -/
def ofSymbols (symbols : List Symbol) : SymbolIndex :=
  symbols.foldl prefer (symbols.foldl add {})

/-- The symbol with a qualified name. -/
def get? (index : SymbolIndex) (name : Option String) : Option Symbol :=
  name.bind index.byName.get?

/-- The symbol with a name in an enclosing definition, or in the module. -/
def child? (index : SymbolIndex) (parent : Option String) (name : String) : Option Symbol :=
  (index.children.get? parent).bind fun table => table.get? name

/-- The methods of a class in the order in which their names first appear. -/
def methodsOf (index : SymbolIndex) (cls : Symbol) : List Symbol :=
  (((index.children.get? (some cls.qualifiedName)).getD {}).values).filter fun s =>
    decide (s.kind = .method)

/-- The text of a base without what stands in brackets after it. -/
def baseName (base : String) : String :=
  Text.strip (Text.beforeFirst '[' base)

/-- The class of the file that a base names. -/
def baseClass? (index : SymbolIndex) (base : String) : Option Symbol :=
  if Text.isIdentifier (baseName base) then index.classes.get? (baseName base) else none

/-- The classes of the file that the bases of a class name. -/
def baseClasses (index : SymbolIndex) (cls : Symbol) : List Symbol :=
  cls.bases.filterMap index.baseClass?

/-- The method with a name that is defined in the class itself. -/
def ownMethod? (index : SymbolIndex) (cls : Symbol) (name : String) : Option Symbol :=
  (index.child? (some cls.qualifiedName) name).filter fun s => decide (s.kind = .method)

/-- The names other than a given one. -/
def without (name : String) (names : List String) : List String :=
  names.filter (· != name)

theorem length_without_lt {name : String} {names : List String} (h : name ∈ names) :
    (without name names).length < names.length := by
  rw [without, List.length_filter_lt_length_iff_exists]
  exact ⟨name, h, by simp⟩

/-- Searches the classes waiting, each marked with whether it counts itself, depth first and from
left to right. A class is visited once: `unvisited` are the names that have not been. -/
def searchMethod (index : SymbolIndex) (name : String) :
    (unvisited : List String) → (waiting : List (Symbol × Bool)) → Option Symbol
  | _, [] => none
  | unvisited, (cls, counts) :: waiting =>
    if _h : cls.qualifiedName ∈ unvisited then
      match (if counts then index.ownMethod? cls name else none) with
      | some method => some method
      | none =>
        searchMethod index name (without cls.qualifiedName unvisited)
          ((index.baseClasses cls).map (·, true) ++ waiting)
    else searchMethod index name unvisited waiting
termination_by unvisited waiting => (unvisited.length, waiting.length)
decreasing_by
  · apply Prod.Lex.left
    exact length_without_lt _h
  · apply Prod.Lex.right
    simp

/-- The method that an object of the class has under a name: its own, unless the class does not
count itself, else the first one found in the classes of its bases. -/
def findMethod? (index : SymbolIndex) (cls : Symbol) (name : String) (counts : Bool) :
    Option Symbol :=
  index.searchMethod name (cls.qualifiedName :: index.byName.keys) [(cls, counts)]

/-- A symbol and the definitions around it, the innermost first, in at most `steps` steps. -/
def chainFrom (index : SymbolIndex) : (steps : Nat) → Option Symbol → List Symbol
  | 0, _ => []
  | _, none => []
  | steps + 1, some s => s :: chainFrom index steps (index.get? s.parent)

/-- A scope and the scopes around it, the innermost first. A way outward that ends passes each name of the
table once at most; one that comes back to a name never ends, and the chain is cut. -/
def scopeChain (index : SymbolIndex) (scope : Option Symbol) : List Symbol :=
  index.chainFrom (index.byName.entries.length + 1) scope

end SymbolIndex

end SourceFacts
