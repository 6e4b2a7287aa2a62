import Mathlib.Logic.Relation
import SourceFacts.Proofs.Symbol.Position

/-!
# The symbol table is a tree

Symbols are registered one after the other, each under the symbol of the definition around it, to whose
children its name is added. What a module defines is the table that this leaves. Every registration keeps
the table a tree, also where several symbols share a name, since a symbol is told by its place.
-/

namespace SourceFacts

open Definitions

/-- The symbol as it is before anything is registered under it. -/
def Symbol.childless (s : Symbol) : Symbol := { s with children := [] }

theorem Symbol.qualifiedName_of_childless {s t : Symbol} (h : s.childless = t.childless) :
    s.qualifiedName = t.qualifiedName := by
  have hname : s.childless.qualifiedName = t.childless.qualifiedName := by rw [h]
  exact hname

theorem Symbol.kind_of_childless {s t : Symbol} (h : s.childless = t.childless) : s.kind = t.kind := by
  have hkind : s.childless.kind = t.childless.kind := by rw [h]
  exact hkind

/-- A registered symbol: the offset of its definition, the place in the table of the symbol under which
it was registered, if any, and the symbol itself. -/
structure Row where
  start : Nat
  under : Option Nat
  symbol : Symbol

namespace Row

/-- Adds names to the children of the symbol. -/
def adopt (names : List String) (row : Row) : Row :=
  { row with symbol := { row.symbol with children := row.symbol.children ++ names } }

@[simp]
theorem under_adopt (names : List String) (row : Row) : (row.adopt names).under = row.under := rfl

@[simp]
theorem childless_adopt (names : List String) (row : Row) :
    (row.adopt names).symbol.childless = row.symbol.childless := rfl

@[simp]
theorem children_adopt (names : List String) (row : Row) :
    (row.adopt names).symbol.children = row.symbol.children ++ names := rfl

@[simp]
theorem adopt_adopt (names more : List String) (row : Row) :
    (row.adopt names).adopt more = row.adopt (names ++ more) := by
  simp [adopt]

end Row

/-- Adds names to the children of the symbol at a place. -/
def adoptAt (rows : List Row) (place : Option Nat) (names : List String) : List Row :=
  match place with
  | some i => rows.modify i (Row.adopt names)
  | none => rows

/-- Registers a symbol under the one at a place, or at module level. -/
def register (rows : List Row) (under : Option Nat) (start : Nat) (s : Symbol) : List Row :=
  adoptAt rows under [s.qualifiedName] ++ [{ start, under, symbol := s }]

/-! ## Visiting the statements -/

section Visit

variable (src : Source)

/-- Registers the symbol of a definition with a name, and then what its body gives. The parent is known
by its place and by what it was when it was registered. -/
def registerDefinition (parent : Option (Nat × Symbol)) (decorators : List Decorator) (n : Node)
    (inside : Nat × Symbol → List Row → List Row) (rows : List Row) : List Row :=
  match givenName? src n with
  | none => rows
  | some name =>
    let s := definitionSymbol src (parent.map (·.2)) decorators name n
    inside (rows.length, s) (register rows (parent.map (·.1)) n.start s)

mutual

/-- Registers what a statement defines. -/
def visitStatement (parent : Option (Nat × Symbol)) : Node → List Row → List Row
  | .node l cs, rows =>
    if isPlainDefinition l.kind then
      registerDefinition src parent [] (.node l cs) (fun p => visitBody p cs) rows
    else if l.kind == "decorated_definition" then visitDecorated parent (.node l cs) cs rows
    else if compoundStatements.contains l.kind then visitClauses parent cs rows
    else if l.kind == "ERROR" then visitStatements parent cs rows
    else rows

/-- Registers what the content among some nodes defines. -/
def visitStatements (parent : Option (Nat × Symbol)) : List Node → List Row → List Row
  | [], rows => rows
  | n :: ns, rows =>
    visitStatements parent ns (if n.isContent then visitStatement parent n rows else rows)

/-- Registers what the statements of a block define. -/
def visitBlock (parent : Option (Nat × Symbol)) : Node → List Row → List Row
  | .node _ cs, rows => visitStatements parent cs rows

/-- Registers what the first of the nodes that is a `body` defines. -/
def visitBody (parent : Nat × Symbol) : List Node → List Row → List Row
  | [], rows => rows
  | n :: ns, rows =>
    if n.hasField "body" then visitBlock (some parent) n rows else visitBody parent ns rows

/-- Registers what the blocks and the clauses of a compound statement define. -/
def visitClauses (parent : Option (Nat × Symbol)) : List Node → List Row → List Row
  | [], rows => rows
  | n :: ns, rows =>
    visitClauses parent ns
      (if n.isContent then
        if n.kind == "block" then visitBlock parent n rows
        else if compoundStatements.contains n.kind then visitStatement parent n rows
        else rows
      else rows)

/-- Registers what the first of the nodes that is a `definition` defines. -/
def visitDecorated (parent : Option (Nat × Symbol)) (whole : Node) :
    List Node → List Row → List Row
  | [], rows => rows
  | n :: ns, rows =>
    if n.hasField "definition" then visitDefinition parent (whole.decorators src) n rows
    else visitDecorated parent whole ns rows

/-- Registers what the definition under some decorators defines. -/
def visitDefinition (parent : Option (Nat × Symbol)) (decorators : List Decorator) :
    Node → List Row → List Row
  | .node l cs, rows =>
    if isPlainDefinition l.kind then
      registerDefinition src parent decorators (.node l cs) (fun p => visitBody p cs) rows
    else rows

end

/-- The table that the registrations of a module leave. -/
def registeredSymbols (root : Node) : List Row :=
  visitStatements src none root.children []

end Visit

/-! ## Places -/

theorem modify_append_of_lt {α : Type} (f : α → α) {i : Nat} {l : List α} (more : List α)
    (h : i < l.length) : (l ++ more).modify i f = l.modify i f ++ more := by
  induction l generalizing i with
  | nil => exact absurd h (Nat.not_lt_zero _)
  | cons a l ih =>
      cases i with
      | zero => rfl
      | succ i => simp [ih (Nat.lt_of_succ_lt_succ h)]

theorem map_modify_of_forall {α β : Type} {g : α → β} {f : α → α} (h : ∀ a, g (f a) = g a) (i : Nat)
    (l : List α) : (l.modify i f).map g = l.map g := by
  induction l generalizing i with
  | nil => simp
  | cons a l ih =>
      cases i with
      | zero => simp [h]
      | succ i => simp [ih]

section Adopt

variable (rows : List Row) (names : List String)

@[simp]
theorem length_adoptAt (place : Option Nat) : (adoptAt rows place names).length = rows.length := by
  cases place with
  | none => rfl
  | some i => exact List.length_modify ..

theorem getElem?_adoptAt (place : Option Nat) (i : Nat) :
    (adoptAt rows place names)[i]? =
      rows[i]?.map fun row => if place = some i then row.adopt names else row := by
  cases place with
  | none => simp [adoptAt]
  | some j =>
      rw [adoptAt, List.getElem?_modify]
      simp

@[simp]
theorem adoptAt_nil (place : Option Nat) : adoptAt rows place [] = rows := by
  have hid : Row.adopt [] = id := by
    funext row
    simp [Row.adopt]
  cases place with
  | none => rfl
  | some i => rw [adoptAt, hid, List.modify_id]

theorem adoptAt_adoptAt (more : List String) (place : Option Nat) :
    adoptAt (adoptAt rows place names) place more = adoptAt rows place (names ++ more) := by
  cases place with
  | none => rfl
  | some i =>
      have hcomp : Row.adopt more ∘ Row.adopt names = Row.adopt (names ++ more) :=
        funext fun row => row.adopt_adopt names more
      rw [adoptAt, adoptAt, adoptAt, List.modify_modify_eq, hcomp]

theorem adoptAt_append {place : Option Nat} (more : List Row)
    (h : ∀ i, place = some i → i < rows.length) :
    adoptAt (rows ++ more) place names = adoptAt rows place names ++ more := by
  cases place with
  | none => rfl
  | some i => exact modify_append_of_lt _ more (h i rfl)

/-- The last row adopts names. -/
theorem adoptAt_length (row : Row) :
    adoptAt (rows ++ [row]) (some rows.length) names = rows ++ [row.adopt names] := by
  induction rows with
  | nil => rfl
  | cons first rows ih =>
      rw [adoptAt] at ih
      simp [adoptAt, ih]

theorem map_adoptAt {β : Type} {g : Row → β} (h : ∀ row : Row, g (row.adopt names) = g row)
    (place : Option Nat) : (adoptAt rows place names).map g = rows.map g := by
  cases place with
  | none => rfl
  | some i => exact map_modify_of_forall h i rows

end Adopt

section Register

variable (rows : List Row) (under : Option Nat) (start : Nat) (s : Symbol)

@[simp]
theorem length_register : (register rows under start s).length = rows.length + 1 := by
  simp [register]

theorem getElem?_register_of_lt {i : Nat} (h : i < rows.length) :
    (register rows under start s)[i]? =
      rows[i]?.map fun row => if under = some i then row.adopt [s.qualifiedName] else row := by
  rw [register, List.getElem?_append_left (by simpa using h), getElem?_adoptAt]

theorem getElem?_register_length :
    (register rows under start s)[rows.length]? = some { start, under, symbol := s } := by
  simp [register]

/-- A row of the table was there before, up to its children, or is the new one. -/
theorem register_cases {i : Nat} {row : Row} (h : (register rows under start s)[i]? = some row) :
    (∃ old, rows[i]? = some old ∧
      row = if under = some i then old.adopt [s.qualifiedName] else old) ∨
    (i = rows.length ∧ row = { start, under, symbol := s }) := by
  have hi : i < rows.length + 1 := by
    have hlt := (List.getElem?_eq_some_iff.mp h).1
    simpa using hlt
  rcases Nat.lt_or_eq_of_le (Nat.le_of_lt_succ hi) with hlt | rfl
  · rw [getElem?_register_of_lt rows under start s hlt] at h
    obtain ⟨old, hold, hrow⟩ := Option.map_eq_some_iff.mp h
    exact Or.inl ⟨old, hold, hrow.symm⟩
  · rw [getElem?_register_length] at h
    exact Or.inr ⟨rfl, (Option.some.inj h).symm⟩

end Register

/-! ## Registrations -/

/-- The parent is in the table, where it may have been given children since. -/
def InTable (rows : List Row) (parent : Option (Nat × Symbol)) : Prop :=
  ∀ i s, parent = some (i, s) →
    ∃ row, rows[i]? = some row ∧ row.symbol.childless = s.childless

theorem InTable.lt_length {rows : List Row} {parent : Option (Nat × Symbol)}
    (h : InTable rows parent) {i : Nat} (hi : parent.map (·.1) = some i) : i < rows.length := by
  obtain ⟨⟨j, s⟩, hparent, rfl⟩ := Option.map_eq_some_iff.mp hi
  obtain ⟨row, hrow, _⟩ := h j s hparent
  exact (List.getElem?_eq_some_iff.mp hrow).1

section Run

variable (src : Source)

/-- One registration: the symbol of a definition with a name goes under a symbol of the table, or to
module level, and is made for that place. -/
inductive Registers : List Row → List Row → Prop where
  | symbol {rows : List Row} {parent : Option (Nat × Symbol)} {d : Node}
      {decorators : List Decorator} {name : String} (hparent : InTable rows parent)
      (hname : givenName? src d = some name) :
      Registers rows (register rows (parent.map (·.1)) d.start
        (definitionSymbol src (parent.map (·.2)) decorators name d))

/-- Any number of registrations, one after the other. -/
abbrev RegistersAll : List Row → List Row → Prop := Relation.ReflTransGen (Registers src)

variable {src}

theorem Registers.inTable {rows rows' : List Row} (h : Registers src rows rows')
    {parent : Option (Nat × Symbol)} (hparent : InTable rows parent) : InTable rows' parent := by
  cases h with
  | symbol _ _ =>
      intro i s hi
      obtain ⟨row, hrow, hsymbol⟩ := hparent i s hi
      rw [getElem?_register_of_lt _ _ _ _ (List.getElem?_eq_some_iff.mp hrow).1, hrow]
      refine ⟨_, rfl, ?_⟩
      split
      · exact hsymbol
      · exact hsymbol

theorem RegistersAll.inTable {rows rows' : List Row} (h : RegistersAll src rows rows')
    {parent : Option (Nat × Symbol)} (hparent : InTable rows parent) : InTable rows' parent := by
  induction h with
  | refl => exact hparent
  | tail _ hlast ih => exact hlast.inTable ih

/-! ## The table of a module -/

/-- The second table is what registrations make of the first: the parent adopts the names that stand
directly in it, and the symbols are added at the end. -/
structure Adds (src : Source) (place : Option Nat) (defs : Definitions) (rows rows' : List Row) :
    Prop where
  run : RegistersAll src rows rows'
  added : ∃ new : List Row, rows' = adoptAt rows place defs.direct ++ new ∧
    new.map (fun row => (row.start, row.symbol)) = defs.symbols

theorem Adds.of_empty {place : Option Nat} {defs : Definitions} {rows : List Row}
    (hsymbols : defs.symbols = []) (hdirect : defs.direct = []) : Adds src place defs rows rows where
  run := .refl
  added := ⟨[], by rw [hdirect, adoptAt_nil, List.append_nil], by rw [hsymbols, List.map_nil]⟩

theorem Adds.append {place : Option Nat} {a b : Definitions} {rows middle rows' : List Row}
    (hplace : ∀ i, place = some i → i < rows.length) (ha : Adds src place a rows middle)
    (hb : Adds src place b middle rows') : Adds src place (a ++ b) rows rows' where
  run := ha.run.trans hb.run
  added := by
    obtain ⟨new, rfl, hnew⟩ := ha.added
    obtain ⟨new', rfl, hnew'⟩ := hb.added
    refine ⟨new ++ new', ?_, ?_⟩
    · rw [adoptAt_append _ _ _ fun i hi => by simpa using hplace i hi, adoptAt_adoptAt,
        List.append_assoc]
      rfl
    · rw [List.map_append, hnew, hnew']
      rfl

theorem children_definitionSymbol (parent : Option Symbol) (decorators : List Decorator)
    (name : String) (n : Node) :
    (definitionSymbol src parent decorators name n).children = [] := by
  unfold definitionSymbol
  split <;> rfl

theorem direct_define (file : String) (parent : Option Symbol) (decorators : List Decorator) (n : Node)
    (inside : Symbol → Definitions) :
    (define src file parent decorators n inside).direct =
      match givenName? src n with
      | none => []
      | some name => [(definitionSymbol src parent decorators name n).qualifiedName] := by
  unfold define
  cases givenName? src n <;> rfl

theorem Adds.define {file : String} {parent : Option (Nat × Symbol)} {decorators : List Decorator}
    {n : Node} {inside : Symbol → Definitions} {visit : Nat × Symbol → List Row → List Row}
    {rows : List Row} (hparent : InTable rows parent)
    (hinside : ∀ i s rows, InTable rows (some (i, s)) →
      Adds src (some i) (inside s) rows (visit (i, s) rows)) :
    Adds src (parent.map (·.1)) (define src file (parent.map (·.2)) decorators n inside) rows
      (registerDefinition src parent decorators n visit rows) := by
  unfold registerDefinition
  cases hname : givenName? src n with
  | none => exact .of_empty (by rw [symbols_define, hname]) (by rw [direct_define, hname])
  | some name =>
      dsimp only
      let row : Row :=
        { start := n.start
          under := parent.map (·.1)
          symbol := definitionSymbol src (parent.map (·.2)) decorators name n }
      have hstep : Registers src rows (register rows row.under row.start row.symbol) :=
        .symbol hparent hname
      have hrow : InTable (register rows row.under row.start row.symbol)
          (some (rows.length, row.symbol)) := by
        intro i s heq
        cases heq
        exact ⟨row, getElem?_register_length .., rfl⟩
      have hbody := hinside _ _ _ hrow
      obtain ⟨new, hrows, hsymbols⟩ := hbody.added
      refine ⟨.head hstep hbody.run, ?_⟩
      rw [symbols_define, direct_define, hname]
      refine ⟨row.adopt (inside row.symbol).direct :: new, ?_, ?_⟩
      · -- The names in the body go to the row that was added last.
        rw [hrows, register, ← length_adoptAt rows [row.symbol.qualifiedName] row.under,
          adoptAt_length, List.append_assoc]
        rfl
      · have hchildren : row.symbol.children = [] := children_definitionSymbol ..
        rw [List.map_cons, hsymbols, Row.adopt, hchildren]
        rfl

theorem direct_moduleVariable (n : Node) : (moduleVariable src n).direct = [] := by
  obtain ⟨_, heq⟩ := exists_moduleVariable_eq src n
  rw [heq]

mutual

theorem adds_visitStatement {file : String} {parent : Option (Nat × Symbol)} {lenient : Bool} :
    (n : Node) → (rows : List Row) → InTable rows parent →
    Adds src (parent.map (·.1)) (ofStatement src file (parent.map (·.2)) lenient n) rows
      (visitStatement src parent n rows)
  | .node l cs, rows => by
      intro hparent
      rw [ofStatement, visitStatement]
      split
      · exact .define hparent fun i s rows h => adds_visitBody cs rows h
      split
      · exact adds_visitDecorated _ cs rows hparent
      split
      · exact adds_visitClauses cs rows hparent
      split
      · rename_i hexpression
        have herror : ¬ (l.kind == "ERROR") = true := by
          rw [beq_iff_eq.mp hexpression]
          decide
        rw [if_neg herror]
        split
        · exact .of_empty (symbols_moduleVariable src _) (direct_moduleVariable _)
        · exact .of_empty rfl rfl
      split
      · exact adds_visitStatements cs rows hparent
      split
      · exact .of_empty rfl rfl
      · exact .of_empty rfl rfl
termination_by structural n => n

theorem adds_visitStatements {file : String} {parent : Option (Nat × Symbol)} {lenient : Bool} :
    (ns : List Node) → (rows : List Row) → InTable rows parent →
    Adds src (parent.map (·.1)) (ofStatements src file (parent.map (·.2)) lenient ns) rows
      (visitStatements src parent ns rows)
  | [], rows => by
      intro _
      rw [ofStatements, visitStatements]
      exact .of_empty rfl rfl
  | n :: ns, rows => by
      intro hparent
      rw [ofStatements, visitStatements]
      have hfirst : Adds src (parent.map (·.1))
          (if n.isContent then ofStatement src file (parent.map (·.2)) lenient n else {}) rows
          (if n.isContent then visitStatement src parent n rows else rows) := by
        split
        · exact adds_visitStatement n rows hparent
        · exact .of_empty rfl rfl
      exact hfirst.append (fun i => hparent.lt_length)
        (adds_visitStatements ns _ (hfirst.run.inTable hparent))
termination_by structural ns => ns

theorem adds_visitBlock {file : String} {parent : Option (Nat × Symbol)} :
    (n : Node) → (rows : List Row) → InTable rows parent →
    Adds src (parent.map (·.1)) (ofBlock src file (parent.map (·.2)) n) rows
      (visitBlock src parent n rows)
  | .node l cs, rows => by
      intro hparent
      rw [ofBlock, visitBlock]
      exact adds_visitStatements cs rows hparent
termination_by structural n => n

theorem adds_visitBody {file : String} {i : Nat} {s : Symbol} :
    (ns : List Node) → (rows : List Row) → InTable rows (some (i, s)) →
    Adds src (some i) (ofBody src file s ns) rows (visitBody src (i, s) ns rows)
  | [], rows => by
      intro _
      rw [ofBody, visitBody]
      exact .of_empty rfl rfl
  | n :: ns, rows => by
      intro hparent
      rw [ofBody, visitBody]
      split
      · exact adds_visitBlock n rows hparent
      · exact adds_visitBody ns rows hparent
termination_by structural ns => ns

theorem adds_visitClauses {file : String} {parent : Option (Nat × Symbol)} :
    (ns : List Node) → (rows : List Row) → InTable rows parent →
    Adds src (parent.map (·.1)) (ofClauses src file (parent.map (·.2)) ns) rows
      (visitClauses src parent ns rows)
  | [], rows => by
      intro _
      rw [ofClauses, visitClauses]
      exact .of_empty rfl rfl
  | n :: ns, rows => by
      intro hparent
      rw [ofClauses, visitClauses]
      have hfirst : Adds src (parent.map (·.1))
          (if n.isContent then
            if n.kind == "block" then ofBlock src file (parent.map (·.2)) n
            else if compoundStatements.contains n.kind then
              ofStatement src file (parent.map (·.2)) false n
            else {}
          else {}) rows
          (if n.isContent then
            if n.kind == "block" then visitBlock src parent n rows
            else if compoundStatements.contains n.kind then visitStatement src parent n rows
            else rows
          else rows) := by
        split
        · split
          · exact adds_visitBlock n rows hparent
          · split
            · exact adds_visitStatement n rows hparent
            · exact .of_empty rfl rfl
        · exact .of_empty rfl rfl
      exact hfirst.append (fun i => hparent.lt_length)
        (adds_visitClauses ns _ (hfirst.run.inTable hparent))
termination_by structural ns => ns

theorem adds_visitDecorated {file : String} {parent : Option (Nat × Symbol)} (whole : Node) :
    (ns : List Node) → (rows : List Row) → InTable rows parent →
    Adds src (parent.map (·.1)) (ofDecorated src file (parent.map (·.2)) whole ns) rows
      (visitDecorated src parent whole ns rows)
  | [], rows => by
      intro _
      rw [ofDecorated, visitDecorated]
      exact .of_empty rfl rfl
  | n :: ns, rows => by
      intro hparent
      rw [ofDecorated, visitDecorated]
      split
      · exact adds_visitDefinition n rows hparent
      · exact adds_visitDecorated whole ns rows hparent
termination_by structural ns => ns

theorem adds_visitDefinition {file : String} {parent : Option (Nat × Symbol)}
    {decorators : List Decorator} : (n : Node) → (rows : List Row) → InTable rows parent →
    Adds src (parent.map (·.1)) (ofDefinition src file (parent.map (·.2)) decorators n) rows
      (visitDefinition src parent decorators n rows)
  | .node l cs, rows => by
      intro hparent
      rw [ofDefinition, visitDefinition]
      split
      · exact .define hparent fun i s rows h => adds_visitBody cs rows h
      · exact .of_empty rfl rfl
termination_by structural n => n

end

theorem inTable_module (rows : List Row) : InTable rows none := by
  intro i s h
  cases h

theorem adds_registeredSymbols (file : String) (root : Node) :
    Adds src none (ofModule src file root) [] (registeredSymbols src root) :=
  adds_visitStatements root.children [] (inTable_module [])

/-- The registrations of a module leave the symbols that its statements define. -/
theorem registeredSymbols_eq (file : String) (root : Node) :
    (registeredSymbols src root).map (fun row => (row.start, row.symbol)) =
      (ofModule src file root).symbols := by
  obtain ⟨new, hrows, hnew⟩ := (adds_registeredSymbols file root).added
  have hrows' : registeredSymbols src root = new := hrows
  rw [hrows']
  exact hnew

end Run

/-! ## Symbols as they are registered -/

section Made

variable (src : Source) (parent : Option Symbol) (decorators : List Decorator) (name : String) (n : Node)

theorem name_definitionSymbol : (definitionSymbol src parent decorators name n).name = name := by
  unfold definitionSymbol
  split <;> rfl

theorem qualifiedName_definitionSymbol :
    (definitionSymbol src parent decorators name n).qualifiedName = qualify parent name := by
  unfold definitionSymbol
  split <;> rfl

theorem parent_definitionSymbol :
    (definitionSymbol src parent decorators name n).parent = parent.map (·.qualifiedName) := by
  unfold definitionSymbol
  split <;> rfl

/-- What is not a class is a method in a class and a function elsewhere. -/
theorem kind_definitionSymbol :
    (definitionSymbol src parent decorators name n).kind = .cls ∨
      (definitionSymbol src parent decorators name n).kind =
        if parent.any fun p => p.kind == .cls then .method else .function := by
  unfold definitionSymbol
  split
  · exact Or.inr rfl
  · exact Or.inl rfl

theorem instanceParam?_eq_some_iff {isMethod isStatic : Bool} {parameters : List String}
    {p : String} :
    instanceParam? isMethod isStatic parameters = some p ↔
      isMethod = true ∧ isStatic = false ∧ parameters.head? = some p ∧
        Text.startsWith "*" p = false := by
  unfold instanceParam?
  cases parameters with
  | nil => simp
  | cons first rest =>
      simp only [List.head?_cons, Option.ite_none_right_eq_some, Option.some.injEq,
        Bool.and_eq_true, Bool.not_eq_eq_eq_not, Bool.not_true]
      constructor
      · rintro ⟨⟨⟨hmethod, hstatic⟩, hstar⟩, rfl⟩
        exact ⟨hmethod, hstatic, rfl, hstar⟩
      · rintro ⟨hmethod, hstatic, rfl, hstar⟩
        exact ⟨⟨⟨hmethod, hstatic⟩, hstar⟩, rfl⟩

/-- The first parameter of a method that is not static stands for its object, unless it collects
arguments. -/
def ObjectFirst (s : Symbol) : Prop :=
  ∀ p, s.instanceParam = some p ↔
    s.kind = .method ∧ s.isStaticMethod = false ∧ s.parameters.head? = some p ∧
      Text.startsWith "*" p = false

theorem objectFirst_definitionSymbol :
    ObjectFirst (definitionSymbol src parent decorators name n) := by
  unfold definitionSymbol
  split
  · intro p
    have hkind : (functionSymbol src parent decorators name n).kind = .method ↔
        (parent.any fun p => p.kind == .cls) = true := by
      unfold functionSymbol
      dsimp only
      split <;> simp_all
    rw [hkind]
    exact instanceParam?_eq_some_iff
  · intro p
    simp [classSymbol]

end Made

/-! ## Trees -/

/-- The table is a tree, whose symbols are told by their places. -/
structure IsTree (rows : List Row) : Prop where
  /-- What was registered under a symbol stands after it, has it as parent, and has its name behind the
  name of that symbol; it is a method exactly if that symbol is a class. -/
  nested : ∀ (i : Nat) (row : Row) (j : Nat), rows[i]? = some row → row.under = some j →
    j < i ∧ ∃ p : Row, rows[j]? = some p ∧
      row.symbol.parent = some p.symbol.qualifiedName ∧
      row.symbol.qualifiedName = p.symbol.qualifiedName ++ "." ++ row.symbol.name ∧
      (row.symbol.kind ≠ .cls → (row.symbol.kind = .method ↔ p.symbol.kind = .cls))
  /-- What was registered under no symbol has no parent, its own name only, and is no method. -/
  top : ∀ row ∈ rows, row.under = none →
    row.symbol.parent = none ∧ row.symbol.qualifiedName = row.symbol.name ∧
      row.symbol.kind ≠ .method
  /-- The children of a symbol are the names of what was registered under this very symbol, in order. -/
  children : ∀ (i : Nat) (row : Row), rows[i]? = some row →
    row.symbol.children =
      (rows.filter fun r => decide (r.under = some i)).map (·.symbol.qualifiedName)
  objectFirst : ∀ row ∈ rows, ObjectFirst row.symbol
  /-- There are as many children in all as symbols with a parent. -/
  count : (rows.flatMap (·.symbol.children)).length = (rows.filter (·.symbol.parent.isSome)).length

theorem isTree_nil : IsTree [] where
  nested := by simp
  top := by simp
  children := by simp
  objectFirst := by simp
  count := rfl

/-- A place that was filled still holds the same symbol, up to its children. -/
theorem exists_register {rows : List Row} {i : Nat} {row : Row} (h : rows[i]? = some row)
    (under : Option Nat) (start : Nat) (s : Symbol) :
    ∃ row', (register rows under start s)[i]? = some row' ∧ row'.under = row.under ∧
      row'.symbol.childless = row.symbol.childless := by
  rw [getElem?_register_of_lt _ _ _ _ (List.getElem?_eq_some_iff.mp h).1, h]
  refine ⟨_, rfl, ?_⟩
  split
  · exact ⟨rfl, rfl⟩
  · exact ⟨rfl, rfl⟩

/-- The names of what was registered under a symbol: one more if the new symbol was. -/
theorem names_register (rows : List Row) (under : Option Nat) (start : Nat) (s : Symbol) (i : Nat) :
    ((register rows under start s).filter fun r => decide (r.under = some i)).map
        (·.symbol.qualifiedName) =
      (rows.filter fun r => decide (r.under = some i)).map (·.symbol.qualifiedName) ++
        if under = some i then [s.qualifiedName] else [] := by
  have hkey : ∀ l : List Row,
      (l.filter fun r => decide (r.under = some i)).map (·.symbol.qualifiedName) =
        ((l.map fun r => (r.under, r.symbol.qualifiedName)).filter
          fun k => decide (k.1 = some i)).map (·.2) := by
    intro l
    rw [List.filter_map, List.map_map]
    rfl
  rw [hkey, hkey, register, List.map_append, map_adoptAt _ _ fun _ => rfl, List.filter_append,
    List.map_append]
  split
  · rename_i hunder
    simp [hunder]
  · rename_i hunder
    simp [hunder]

/-- The children in all are one more if the new symbol goes under one that is there. -/
theorem length_children_adoptAt {rows : List Row} {place : Option Nat} (name : String)
    (h : ∀ i, place = some i → i < rows.length) :
    ((adoptAt rows place [name]).flatMap (·.symbol.children)).length =
      (rows.flatMap (·.symbol.children)).length + if place.isSome then 1 else 0 := by
  cases place with
  | none => rfl
  | some i =>
      replace h := h i rfl
      induction rows generalizing i with
      | nil => exact absurd h (Nat.not_lt_zero _)
      | cons row rows ih =>
          cases i with
          | zero =>
              simp [adoptAt]
              omega
          | succ i =>
              have hrows := ih i (Nat.lt_of_succ_lt_succ h)
              simp [adoptAt] at hrows ⊢
              omega

theorem parents_adoptAt (rows : List Row) (place : Option Nat) (name : String) :
    ((adoptAt rows place [name]).filter (·.symbol.parent.isSome)).length =
      (rows.filter (·.symbol.parent.isSome)).length := by
  have hkey : ∀ l : List Row, (l.filter (·.symbol.parent.isSome)).length =
      ((l.map (·.symbol.parent)).filter (·.isSome)).length := by
    intro l
    rw [List.filter_map, List.length_map]
    rfl
  rw [hkey, hkey, map_adoptAt _ _ fun _ => rfl]

/-! ## Every registration keeps the tree -/

section Step

variable {src : Source} {rows rows' : List Row} {parent : Option (Nat × Symbol)}

/-- A symbol that was there stays nested as it was. -/
theorem IsTree.nested_old (h : IsTree rows) {i j : Nat} {row : Row} (hrow : rows[i]? = some row)
    (hunder : row.under = some j) (under : Option Nat) (start : Nat) (s : Symbol) :
    j < i ∧ ∃ p : Row, (register rows under start s)[j]? = some p ∧
      row.symbol.parent = some p.symbol.qualifiedName ∧
      row.symbol.qualifiedName = p.symbol.qualifiedName ++ "." ++ row.symbol.name ∧
      (row.symbol.kind ≠ .cls → (row.symbol.kind = .method ↔ p.symbol.kind = .cls)) := by
  obtain ⟨hlt, p, hp, hnested⟩ := h.nested i row j hrow hunder
  obtain ⟨p', hp', _, hsame⟩ := exists_register hp under start s
  refine ⟨hlt, p', hp', ?_⟩
  rw [Symbol.qualifiedName_of_childless hsame, Symbol.kind_of_childless hsame]
  exact hnested

/-- The symbol of a definition is nested in the parent for which it was made. -/
theorem InTable.nested_new {j : Nat} (h : InTable rows parent) (hunder : parent.map (·.1) = some j)
    (decorators : List Decorator) (name : String) (d : Node) :
    let s := definitionSymbol src (parent.map (·.2)) decorators name d
    ∃ p : Row, (register rows (parent.map (·.1)) d.start s)[j]? = some p ∧
      s.parent = some p.symbol.qualifiedName ∧
      s.qualifiedName = p.symbol.qualifiedName ++ "." ++ s.name ∧
      (s.kind ≠ .cls → (s.kind = .method ↔ p.symbol.kind = .cls)) := by
  intro s
  obtain ⟨⟨_, t⟩, rfl, rfl⟩ := Option.map_eq_some_iff.mp hunder
  obtain ⟨p, hp, hsame⟩ := h _ t rfl
  obtain ⟨p', hp', _, hsame'⟩ := exists_register hp (some _) d.start s
  have hqualified := Symbol.qualifiedName_of_childless (hsame'.trans hsame)
  have hkind := Symbol.kind_of_childless (hsame'.trans hsame)
  refine ⟨p', hp', ?_, ?_, ?_⟩
  · rw [hqualified]
    exact parent_definitionSymbol ..
  · rw [hqualified, qualifiedName_definitionSymbol, name_definitionSymbol]
    rfl
  · intro hcls
    rw [hkind, (kind_definitionSymbol ..).resolve_left hcls]
    cases htkind : t.kind <;> simp [htkind]

theorem top_definitionSymbol (decorators : List Decorator) (name : String) (d : Node) :
    let s := definitionSymbol src none decorators name d
    s.parent = none ∧ s.qualifiedName = s.name ∧ s.kind ≠ .method := by
  refine ⟨parent_definitionSymbol .., ?_, ?_⟩
  · rw [qualifiedName_definitionSymbol, name_definitionSymbol]
    rfl
  · intro hmethod
    rcases kind_definitionSymbol src none decorators name d with hkind | hkind
    · exact absurd (hkind.symm.trans hmethod) (by decide)
    · exact absurd (hkind.symm.trans hmethod) (by decide)

/-- Nothing was registered under a place that is not there. -/
theorem IsTree.filter_length (h : IsTree rows) :
    rows.filter (fun r => decide (r.under = some rows.length)) = [] := by
  refine List.filter_eq_nil_iff.mpr fun r hr hunder => ?_
  obtain ⟨i, hi⟩ := List.mem_iff_getElem?.mp hr
  have hlt := (h.nested i r _ hi (of_decide_eq_true hunder)).1
  have hle := (List.getElem?_eq_some_iff.mp hi).1
  omega

theorem IsTree.step (h : IsTree rows) (hstep : Registers src rows rows') : IsTree rows' := by
  cases hstep with
  | @symbol parent d decorators name hparent _ =>
      constructor
      case nested =>
        intro i row j hrow hunder
        rcases register_cases _ _ _ _ hrow with ⟨old, hold, rfl⟩ | ⟨rfl, rfl⟩
        · have hunder' : old.under = some j := by
            rw [← hunder]
            split <;> rfl
          have hnested := h.nested_old hold hunder' (parent.map (·.1)) d.start
            (definitionSymbol src (parent.map (·.2)) decorators name d)
          split
          · exact hnested
          · exact hnested
        · exact ⟨hparent.lt_length hunder, hparent.nested_new hunder decorators name d⟩
      case top =>
        intro row hrow hunder
        obtain ⟨i, hi⟩ := List.mem_iff_getElem?.mp hrow
        rcases register_cases _ _ _ _ hi with ⟨old, hold, rfl⟩ | ⟨rfl, rfl⟩
        · have hunder' : old.under = none := by
            rw [← hunder]
            split <;> rfl
          have htop := h.top old (List.mem_of_getElem? hold) hunder'
          split
          · exact htop
          · exact htop
        · obtain rfl : parent = none := by simpa using hunder
          exact top_definitionSymbol decorators name d
      case children =>
        intro i row hrow
        rw [names_register]
        rcases register_cases _ _ _ _ hrow with ⟨old, hold, rfl⟩ | ⟨rfl, rfl⟩
        · rw [← h.children i old hold]
          split
          · rfl
          · rw [List.append_nil]
        · have hself : ¬ parent.map (·.1) = some rows.length := fun hself =>
            absurd (hparent.lt_length hself) (Nat.lt_irrefl _)
          rw [h.filter_length, if_neg hself]
          exact children_definitionSymbol ..
      case objectFirst =>
        intro row hrow
        obtain ⟨i, hi⟩ := List.mem_iff_getElem?.mp hrow
        rcases register_cases _ _ _ _ hi with ⟨old, hold, rfl⟩ | ⟨rfl, rfl⟩
        · have hfirst := h.objectFirst old (List.mem_of_getElem? hold)
          split
          · exact hfirst
          · exact hfirst
        · exact objectFirst_definitionSymbol _ _ _ _ _
      case count =>
        have hadopted := fun name => length_children_adoptAt name fun i => hparent.lt_length (i := i)
        simp only [register, List.flatMap_append, List.filter_append, List.length_append, hadopted,
          parents_adoptAt, h.count, List.flatMap_singleton, children_definitionSymbol,
          List.length_nil, List.filter_singleton, parent_definitionSymbol]
        cases parent with
        | none => rfl
        | some _ => rfl

theorem IsTree.run (h : IsTree rows) (hrun : RegistersAll src rows rows') : IsTree rows' := by
  induction hrun with
  | refl => exact h
  | tail _ hlast ih => exact ih.step hlast

end Step

/-- What a module defines is what registering its definitions one after the other leaves, and that is a
tree. -/
theorem symbols_form_tree (src : Source) (file : String) (root : Node) :
    (registeredSymbols src root).map (fun row => (row.start, row.symbol)) =
      (ofModule src file root).symbols ∧
    IsTree (registeredSymbols src root) :=
  ⟨registeredSymbols_eq file root, isTree_nil.run (adds_registeredSymbols file root).run⟩

end SourceFacts
