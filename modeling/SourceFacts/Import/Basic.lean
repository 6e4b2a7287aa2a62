import SourceFacts.Coordinate
import SourceFacts.Order
import SourceFacts.Text.Dotted

/-!
# Imports

A binding made by an import, and the map of a file's or a function's bindings. A later binding of a
name replaces the earlier one and goes to the end.
-/

namespace SourceFacts

/-- A name bound by an import: to a module, or to a symbol of a module. -/
structure Import where
  localName : String
  originModule : String
  originSymbol : Option String := none
  isAliased : Bool := false
  line : Coordinate := some 0
deriving DecidableEq

/-- The name stands for a whole module. -/
def Import.isModuleImport (i : Import) : Bool :=
  i.originSymbol.isNone

/-- The package of a module name; leading dots do not count. -/
def packageOf (module : String) : String :=
  Text.firstPart (String.ofList (module.toList.dropWhile (· == '.')))

/-- The bindings of a file or a function, and the modules imported whole. -/
structure ImportMap where
  entries : List Import := []
  wildcards : List String := []

namespace ImportMap

/-- Binds a name. -/
def add (m : ImportMap) (i : Import) : ImportMap :=
  { m with entries := m.entries.filter (fun e => e.localName != i.localName) ++ [i] }

/-- Notes a module all of whose names are imported. -/
def addWildcard (m : ImportMap) (module : String) : ImportMap :=
  { m with wildcards := m.wildcards ++ [module] }

/-- The binding of a name. -/
def get? (m : ImportMap) (name : String) : Option Import :=
  m.entries.find? fun e => e.localName == name

/-- The name is bound. -/
def contains (m : ImportMap) (name : String) : Bool :=
  m.entries.any fun e => e.localName == name

/-- The number of bound names. -/
def size (m : ImportMap) : Nat :=
  m.entries.length

/-- Nothing is bound and no module is imported whole. -/
def isEmpty (m : ImportMap) : Bool :=
  m.entries.isEmpty && m.wildcards.isEmpty

/-- The packages from which names are bound, sorted. -/
def packages (m : ImportMap) : List String :=
  sortedSet (m.entries.map fun e => packageOf e.originModule)

/-- The web framework that the imports suggest; one of the two goes before the other. -/
def framework? (m : ImportMap) : Option String :=
  if m.packages.contains "fastapi" then some "fastapi"
  else if m.packages.contains "flask" then some "flask"
  else none

end ImportMap

end SourceFacts
