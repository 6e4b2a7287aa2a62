import SourceFacts.Order
import SourceFacts.Symbol.Index

/-!
# Protocols

A class that only declares methods is a protocol. Other classes implement it by naming it as a base
or by having all its methods.
-/

namespace SourceFacts

/-- A class that only declares methods. -/
structure Protocol where
  name : String
  /-- The names of its methods, sorted. -/
  requiredMembers : List String
  line : Coordinate
  /-- A base says that the class is a protocol. -/
  declaresProtocol : Bool := false
  runtimeCheckable : Bool := false

/-- Why a class implements a protocol. -/
inductive MatchKind where
  | nominal
  | structural
deriving DecidableEq

/-- The name of a kind. -/
def MatchKind.name : MatchKind → String
  | .nominal => "Nominal"
  | .structural => "Structural"

/-- A class that implements a protocol. -/
structure Implementer where
  protocol : String
  className : String
  matchKind : MatchKind
  line : Coordinate

/-- A base of the class names the protocol, by its full or its last name. -/
def Symbol.namesProtocol (cls : Symbol) (protocol : String) : Bool :=
  let simple := Text.lastPart protocol
  (cls.bases.map SymbolIndex.baseName).any fun base =>
    base == protocol || base == simple || Text.endsWith ("." ++ simple) base

/-- The class with these methods only declares, has methods, and all of them are stubs. -/
def Symbol.isProtocol (cls : Symbol) (methods : List Symbol) : Bool :=
  cls.isStub && !methods.isEmpty && methods.all (·.isStub)

/-- The protocol that a class with these methods defines. -/
def Symbol.toProtocol (cls : Symbol) (methods : List Symbol) : Protocol where
  name := cls.qualifiedName
  requiredMembers := sortBy compare (methods.map (·.name))
  line := cls.line
  declaresProtocol := cls.bases.any fun b => Text.lastPart (SymbolIndex.baseName b) == "Protocol"
  runtimeCheckable := cls.hasDecorator ["runtime_checkable"]

/-- Why a class with these methods implements a protocol, if it does. -/
def Symbol.implements? (cls : Symbol) (methods : List Symbol) (p : Protocol) : Option MatchKind :=
  if cls.namesProtocol p.name then some .nominal
  else if p.requiredMembers.all fun name => methods.any fun m => m.name == name then
    some .structural
  else none

namespace SymbolIndex

/-- The classes, the last definition of each qualified name. -/
def allClasses (index : SymbolIndex) : List Symbol :=
  index.byName.values.filter fun s => decide (s.kind = .cls)

/-- The protocols among the classes. -/
def protocols (index : SymbolIndex) : List Protocol :=
  (index.allClasses.filter fun c => c.isProtocol (index.methodsOf c)).map fun c =>
    c.toProtocol (index.methodsOf c)

/-- The protocols that each class implements; a protocol implements none. -/
def implementers (index : SymbolIndex) : List Implementer :=
  let others := index.allClasses.filter fun c => !c.isProtocol (index.methodsOf c)
  others.flatMap fun c =>
    index.protocols.filterMap fun p =>
      (c.implements? (index.methodsOf c) p).map fun matchKind =>
        { protocol := p.name, className := c.qualifiedName, matchKind, line := c.line }

end SymbolIndex

end SourceFacts
