import SourceFacts.Proofs.File.Implementer

/-!
# Linear scans

The tables answer as passes over the list of symbols would. The list may be any: names, parents and kinds
need not fit together, and all of them may be repeated.
-/

namespace SourceFacts.SymbolIndex

section Scan

variable (symbols : List Symbol)

/-- The last symbol that has a qualified name. -/
def scanName? (name : String) : Option Symbol :=
  symbols.findRev? fun s => decide (s.qualifiedName = name)

/-- The last symbol that has a name in a parent. -/
def scanChild? (parent : Option String) (name : String) : Option Symbol :=
  symbols.findRev? fun s => decide (s.parent = parent ∧ s.name = name)

/-- The names of the symbols in a parent, each where it first appears. -/
def scanNames (parent : Option String) : List String :=
  ((symbols.filter fun s => decide (s.parent = parent)).map (·.name)).eraseDups

/-- The last class of the module that has a name, else the first class that has it anywhere. -/
def scanClass? (name : String) : Option Symbol :=
  (symbols.findRev? fun s => decide (s.kind = .cls ∧ s.parent = none ∧ s.name = name)).or
    (symbols.find? fun s => decide (s.kind = .cls ∧ s.name = name))

end Scan

/-- The tables answer as scans of the symbols do. -/
structure AnswersAsScans (symbols : List Symbol) (index : SymbolIndex) : Prop where
  get : ∀ name, index.get? name = name.bind (scanName? symbols)
  child : ∀ parent name, index.child? parent name = scanChild? symbols parent name
  methods : ∀ cls, index.methodsOf cls =
    (scanNames symbols (some cls.qualifiedName)).filterMap fun name =>
      (scanChild? symbols (some cls.qualifiedName) name).filter fun s => decide (s.kind = .method)
  base : ∀ base name, Symbol.IsBaseText base name → Text.isIdentifier name = true →
    index.baseClass? base = scanClass? symbols name
  noBase : ∀ base, (∀ name, Symbol.IsBaseText base name → Text.isIdentifier name = false) →
    index.baseClass? base = none

variable {symbols : List Symbol}

theorem getLast?_filter_eq_findRev? (p : Symbol → Bool) :
    (symbols.filter p).getLast? = symbols.findRev? p := by
  rw [List.getLast?_filter, List.findRev?_eq_find?_reverse]

theorem get?_eq_scan (name : Option String) :
    (ofSymbols symbols).get? name = name.bind (scanName? symbols) := by
  cases name with
  | none => rfl
  | some q => rw [get?_ofSymbols, getLast?_filter_eq_findRev?, Option.bind_some, scanName?]

theorem child?_eq_scan (parent : Option String) (name : String) :
    (ofSymbols symbols).child? parent name = scanChild? symbols parent name := by
  rw [child?_ofSymbols, getLast?_filter_eq_findRev?, scanChild?]

/-- The table of a parent is read in the order of its names, and under each name is what the scan finds. -/
theorem methodsOf_eq_scan (cls : Symbol) :
    (ofSymbols symbols).methodsOf cls =
      (scanNames symbols (some cls.qualifiedName)).filterMap fun name =>
        (scanChild? symbols (some cls.qualifiedName) name).filter fun s =>
          decide (s.kind = .method) := by
  -- A name keeps the place where it was first entered, so the keys are the names as they first appear.
  have hkeys : (((ofSymbols symbols).children.get? (some cls.qualifiedName)).getD {}).keys =
      scanNames symbols (some cls.qualifiedName) := by
    rw [children_ofSymbols, Dictionary.keys_ofList, List.map_map]
    rfl
  have hnodup : (((ofSymbols symbols).children.get? (some cls.qualifiedName)).getD {}).keys.Nodup := by
    rw [children_ofSymbols]
    exact Dictionary.nodup_keys_ofList _
  rw [methodsOf, Dictionary.values_eq_filterMap_keys hnodup, hkeys, List.filter_filterMap]
  exact List.filterMap_congr fun name _ => by rw [← child?_eq_get?, child?_eq_scan]

theorem baseClass?_eq_scan {base name : String} (hbase : Symbol.IsBaseText base name)
    (hname : Text.isIdentifier name = true) :
    (ofSymbols symbols).baseClass? base = scanClass? symbols name := by
  rw [baseClass?, Symbol.isBaseText_iff.mp hbase, if_pos hname, classes_ofSymbols,
    getLast?_filter_eq_findRev?, List.head?_filter, scanClass?]

/-- For every list of symbols the tables agree with scans of it: a qualified name stands for the last symbol
that has it, a name in a parent for the last one there; the methods of a class are, name by name as the
names first appear in it, the last symbols that are methods; and a base, less its blanks and brackets, for
the last class of its name in the module or else the first one anywhere, if it is an identifier, and
otherwise for nothing. -/
theorem tables_agree_with_scans (symbols : List Symbol) : AnswersAsScans symbols (ofSymbols symbols) where
  get := get?_eq_scan
  child := child?_eq_scan
  methods := methodsOf_eq_scan
  base := fun _ _ => baseClass?_eq_scan
  noBase := by
    intro base h
    have hname := h (baseName base) (Symbol.isBaseText_iff.mpr rfl)
    rw [baseClass?, hname]
    rfl

/-- A method that is defined again keeps its place among the methods. -/
example :
    let method (name : String) (line : Int) : Symbol :=
      { name, qualifiedName := "c." ++ name, kind := .method, line, endLine := line, parent := some "c" }
    let cls : Symbol := { name := "c", qualifiedName := "c", kind := .cls, line := none, endLine := none }
    ((ofSymbols [method "f" 1, method "g" 2, method "f" 3]).methodsOf cls).map (·.line) =
      [some 3, some 2] := by
  decide

end SourceFacts.SymbolIndex
