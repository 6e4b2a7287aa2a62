import SourceFacts.Proofs.File.Parts
import SourceFacts.Proofs.Order
import SourceFacts.Proofs.Symbol.Index
import SourceFacts.Proofs.Symbol.Member

/-!
# Protocols require what they declare

A protocol comes from the class that is the last definition of its name. What it requires is read from
the table of the symbols with that name as their parent, where the last one of a name counts. So a
function that stands in for an earlier one of its name, or another definition of the name of the class,
can hide what the body of the class says. Where the name is defined once, what is required is what the
body declares.
-/

namespace SourceFacts

open Definitions Spot SymbolIndex

/-! ## The table of methods -/

section Table

variable {symbols : List Symbol}

theorem isProtocol_iff {c : Symbol} {methods : List Symbol} :
    c.isProtocol methods = true ↔ c.isStub = true ∧ methods ≠ [] ∧ ∀ m ∈ methods, m.isStub = true := by
  simp [Symbol.isProtocol, and_assoc]

theorem mem_protocols_iff {p : Protocol} :
    p ∈ (ofSymbols symbols).protocols ↔ ∃ c,
      (ofSymbols symbols).get? (some c.qualifiedName) = some c ∧ c.kind = .cls ∧
      c.isProtocol ((ofSymbols symbols).methodsOf c) = true ∧
      c.toProtocol ((ofSymbols symbols).methodsOf c) = p := by
  simp only [protocols, List.mem_map, List.mem_filter, mem_allClasses_iff, and_assoc]

theorem mem_requiredMembers_iff {c : Symbol} {name : String} :
    name ∈ (c.toProtocol ((ofSymbols symbols).methodsOf c)).requiredMembers ↔
      ∃ m, IsLastIn symbols (some c.qualifiedName) name m ∧ m.kind = .method := by
  simp only [Symbol.toProtocol, mem_sortBy, List.mem_map, mem_methodsOf_iff]
  constructor
  · rintro ⟨m, ⟨hlast, hkind⟩, rfl⟩
    exact ⟨m, hlast, hkind⟩
  · rintro ⟨m, hlast, hkind⟩
    obtain ⟨_, _, rfl⟩ := hlast.spec
    exact ⟨m, ⟨hlast, hkind⟩, rfl⟩

end Table

/-! ## The class of a protocol -/

namespace Protocol

variable (src : Source)

/-- The protocol comes from the class, the last definition of its name. It requires the names whose
last symbol in the class is a method, and these methods are stubs. -/
structure DeclaredBy (symbols : List Symbol) (p : Protocol) (d : Spot) : Prop where
  isClass : d.node.kind = "class_definition"
  line : p.line = some (src.line d.node : Int)
  named : (d.symbol? src).map (·.qualifiedName) = some p.name
  last : ∃ c, d.Gives src c ∧
    (symbols.filter fun s => decide (s.qualifiedName = p.name)).getLast? = some c
  declares : (d.node.child? "body").any Node.isDeclarativeBody = true
  sorted : p.requiredMembers.Pairwise fun s t => compare s t = .lt
  nonempty : p.requiredMembers ≠ []
  members : ∀ name, name ∈ p.requiredMembers ↔
    ∃ m, IsLastIn symbols (some p.name) name m ∧ m.kind = .method
  stubs : ∀ name m, IsLastIn symbols (some p.name) name m → m.kind = .method → m.isStub = true

/-- All functions directly in the body have names, and those of one name are all stubs or all not. -/
def AgreeByName (n : Node) : Prop :=
  (∀ f ∈ n.directFunctions, (givenName? src f).isSome = true) ∧
    ∀ f ∈ n.directFunctions, ∀ g ∈ n.directFunctions, givenName? src f = givenName? src g →
      f.hasStubBody src = g.hasStubBody src

/-- The protocol requires exactly the functions directly in the body of the class, and they are stubs
unless functions of one name differ. -/
structure RequiresBody (p : Protocol) (n : Node) : Prop where
  members : ∀ name, name ∈ p.requiredMembers ↔
    ∃ f ∈ n.directFunctions, givenName? src f = some name
  stubs : AgreeByName src n → ∀ f ∈ n.directFunctions, f.hasStubBody src = true

end Protocol

section Module

variable {src : Source} {file : String} {root : Node}

theorem exists_declaredBy {p : Protocol}
    (hp : p ∈ (ofSymbols ((ofModule src file root).symbols.map (·.2))).protocols) :
    ∃ d, StatementOf src root d ∧
      p.DeclaredBy src ((ofModule src file root).symbols.map (·.2)) d := by
  obtain ⟨c, hget, hcls, hprotocol, rfl⟩ := mem_protocols_iff.mp hp
  obtain ⟨hstub, hnonempty, hstubs⟩ := isProtocol_iff.mp hprotocol
  obtain ⟨d, hd, hplain, hgives⟩ := exists_statement_of_symbol (mem_of_get? hget).1
  have hkind : d.node.kind ≠ "function_definition" := by
    intro hfunction
    have hmember := (hgives.function hfunction).1
    rw [hcls] at hmember
    split at hmember <;> exact absurd hmember (by decide)
  obtain ⟨_, hbody, hline⟩ := hgives.class hkind
  rw [get?_ofSymbols] at hget
  refine ⟨d, hd, ⟨?_, hline, hgives.spec.2.2, ⟨c, hgives, hget⟩, hbody ▸ hstub,
    pairwise_lt_sortBy (nodup_methodsOf _ c), ?_, fun name => mem_requiredMembers_iff, ?_⟩⟩
  · simpa [isPlainDefinition, hkind] using hplain
  · obtain ⟨m, hm⟩ := List.exists_mem_of_ne_nil _ hnonempty
    exact List.ne_nil_of_mem (mem_sortBy.mpr (List.mem_map_of_mem hm))
  · intro name m hlast hmethod
    obtain ⟨_, _, rfl⟩ := hlast.spec
    exact hstubs m (mem_methodsOf_iff.mpr ⟨hlast, hmethod⟩)

namespace SoleDeclaration

variable {d : Spot} {q : String}

theorem exists_of_isLastIn (h : SoleDeclaration src file root d q) {name : String} {m : Symbol}
    (hm : IsLastIn ((ofModule src file root).symbols.map (·.2)) (some q) name m) :
    ∃ f ∈ d.node.directFunctions, givenName? src f = some name ∧ m.kind = .method ∧
      m.isStub = f.hasStubBody src := by
  obtain ⟨hmem, hparent, rfl⟩ := hm.spec
  exact h.exists_directFunction hmem hparent

theorem exists_isLastIn_of_directFunction (h : SoleDeclaration src file root d q) {f : Node}
    {name : String} (hf : f ∈ d.node.directFunctions) (hname : givenName? src f = some name) :
    ∃ m, IsLastIn ((ofModule src file root).symbols.map (·.2)) (some q) name m := by
  obtain ⟨m, hm, hparent, rfl⟩ := h.exists_member hf hname
  exact hparent ▸ exists_isLastIn hm

/-- Where the name is defined once, the protocol requires what the body declares. -/
theorem requiresBody (h : SoleDeclaration src file root d q) {p : Protocol}
    (hp : p.DeclaredBy src ((ofModule src file root).symbols.map (·.2)) d) (hq : p.name = q) :
    p.RequiresBody src d.node := by
  subst hq
  refine ⟨fun name => ?_, fun hagree f hf => ?_⟩
  · rw [hp.members]
    constructor
    · rintro ⟨m, hm, _⟩
      obtain ⟨f, hf, hname, _⟩ := h.exists_of_isLastIn hm
      exact ⟨f, hf, hname⟩
    · rintro ⟨f, hf, hname⟩
      obtain ⟨m, hm⟩ := h.exists_isLastIn_of_directFunction hf hname
      obtain ⟨_, _, _, hkind, _⟩ := h.exists_of_isLastIn hm
      exact ⟨m, hm, hkind⟩
  · -- The last function of the name is a stub, and this one agrees with it.
    obtain ⟨name, hname⟩ := Option.isSome_iff_exists.mp (hagree.1 f hf)
    obtain ⟨m, hm⟩ := h.exists_isLastIn_of_directFunction hf hname
    obtain ⟨g, hg, hgname, hkind, hstub⟩ := h.exists_of_isLastIn hm
    rw [hagree.2 f hf g hg (hname.trans hgname.symm), ← hstub]
    exact hp.stubs name m hm hkind

/-- The name of the class stands for its symbol. -/
theorem exists_get? (h : SoleDeclaration src file root d q) :
    ∃ c, (ofSymbols ((ofModule src file root).symbols.map (·.2))).get? (some q) = some c ∧
      d.Gives src c := by
  obtain ⟨symbol, hsymbol, _⟩ := Option.map_eq_some_iff.mp h.named
  obtain ⟨name, hname, _⟩ := Option.map_eq_some_iff.mp hsymbol
  obtain ⟨c', hc', hgives'⟩ := exists_symbol_of_statement file h.statement h.plain hname
  obtain rfl : c'.qualifiedName = q := Option.some.inj (hgives'.spec.2.2.symm.trans h.named)
  obtain ⟨c, hget⟩ := SymbolIndex.exists_get? hc'
  obtain ⟨hc, hq⟩ := mem_of_get? hget
  obtain ⟨s, hs, hplain, hgives⟩ := exists_statement_of_symbol hc
  obtain rfl : s = d :=
    eq_of_count_qualifiedName h.sole hs h.statement hplain h.plain (hgives.spec.2.2.trans hq.symm) h.named
  exact ⟨c, hget, hgives⟩

/-- Where the name is defined once, a class with functions that are all stubs is a protocol. -/
theorem exists_protocol (h : SoleDeclaration src file root d q) (hsome : d.node.directFunctions ≠ [])
    (hall : ∀ f ∈ d.node.directFunctions,
      (givenName? src f).isSome = true ∧ f.hasStubBody src = true) :
    ∃ p ∈ (ofSymbols ((ofModule src file root).symbols.map (·.2))).protocols, p.name = q := by
  obtain ⟨c, hget, hgives⟩ := h.exists_get?
  obtain ⟨hcls, hbody, _⟩ := hgives.class (by simp [h.isClass])
  obtain ⟨hmem, hq⟩ := mem_of_get? hget
  obtain rfl := Option.some.inj hq
  refine ⟨_, mem_protocols_iff.mpr ⟨c, hget, hcls, isProtocol_iff.mpr ⟨?_, ?_, ?_⟩, rfl⟩, rfl⟩
  · rw [hbody, h.declares]
  · obtain ⟨f, hf⟩ := List.exists_mem_of_ne_nil _ hsome
    obtain ⟨name, hname⟩ := Option.isSome_iff_exists.mp (hall f hf).1
    obtain ⟨m, hm⟩ := h.exists_isLastIn_of_directFunction hf hname
    obtain ⟨_, _, _, hkind, _⟩ := h.exists_of_isLastIn hm
    obtain ⟨_, _, rfl⟩ := hm.spec
    exact List.ne_nil_of_mem (mem_methodsOf_iff.mpr ⟨hm, hkind⟩)
  · intro m hm
    obtain ⟨f, hf, _, _, hstub⟩ := h.exists_of_isLastIn (mem_methodsOf_iff.mp hm).1
    rw [hstub]
    exact (hall f hf).2

end SoleDeclaration

end Module

theorem fileSymbols_eq_ofModule {faults : Faults} (file : String) (src : Source) (root : Node)
    (h : faults .symbols = none) :
    fileSymbols faults file src root = (ofModule src file root).symbols.map (·.2) := by
  rw [fileSymbols, fileDefinitions, Faults.run_of_none h]

/-- Every protocol comes from a class whose body only declares. What it requires are its methods, the
last ones of their names, and they are stubs; where the name of the class is defined once, these are the
functions directly in its body. Such a class with stubs only is a protocol. -/
theorem protocols_require_stubs (config : Config) (misfits : Misfits) (faults : Faults)
    (file module : String) (src : Source) (root : Node) (hkind : root.kind = "module")
    (hname : moduleName file = .ok module) :
    let symbols := fileSymbols faults file src root
    let names := symbols.map (·.qualifiedName)
    ∃ facts, analyzeFile config faults file src (some root) misfits = .ok (.facts facts) ∧
      (∀ p ∈ facts.protocols, ∃ d, StatementOf src root d ∧ p.DeclaredBy src symbols d ∧
        (names.count p.name = 1 → p.RequiresBody src d.node)) ∧
      (faults .symbols = none → faults .protocols = none → ∀ d q, StatementOf src root d →
        d.node.kind = "class_definition" → (d.symbol? src).map (·.qualifiedName) = some q →
        names.count q = 1 → (d.node.child? "body").any Node.isDeclarativeBody = true →
        d.node.directFunctions ≠ [] →
        (∀ f ∈ d.node.directFunctions,
          (givenName? src f).isSome = true ∧ f.hasStubBody src = true) →
        ∃ p ∈ facts.protocols, p.name = q) := by
  dsimp only
  refine ⟨_, analyzeFile_module config misfits faults file module src root hkind hname, ?_, ?_⟩
  · intro p hp
    rw [moduleFacts_protocols, mem_sortBy] at hp
    replace hp := Faults.mem_of_mem_run hp
    cases hfault : faults .symbols with
    | some message =>
        have hnone : fileSymbols faults file src root = [] := by
          simp [fileSymbols, fileDefinitions, Faults.run, hfault]
        rw [hnone] at hp
        exact absurd hp List.not_mem_nil
    | none =>
        rw [fileSymbols_eq_ofModule file src root hfault] at hp ⊢
        obtain ⟨d, hd, hdeclared⟩ := exists_declaredBy hp
        refine ⟨d, hd, hdeclared, fun hcount => ?_⟩
        have hsole : SoleDeclaration src file root d p.name :=
          ⟨hd, hdeclared.isClass, hdeclared.named, hdeclared.declares, hcount.le⟩
        exact hsole.requiresBody hdeclared rfl
  · intro hfault hfault' d q hd hclass hnamed hcount hdeclares hsome hstubs
    rw [fileSymbols_eq_ofModule file src root hfault] at hcount
    have hsole : SoleDeclaration src file root d q :=
      ⟨hd, hclass, hnamed, hdeclares, hcount.le⟩
    obtain ⟨p, hp, hq⟩ := hsole.exists_protocol hsome hstubs
    refine ⟨p, ?_, hq⟩
    rw [moduleFacts_protocols, mem_sortBy, Faults.run_of_none hfault',
      fileSymbols_eq_ofModule file src root hfault]
    exact hp

def moduleOf (stop : Nat) (content : List Node) : Node :=
  .node { kind := "module", start := 0, stop } content

/-- The tree of a class with a name of one letter and the given members. -/
def letterClass (start stop : Nat) (members : List Node) : Node :=
  .node { kind := "class_definition", start, stop }
    [token "class" start (start + 5),
     .node { kind := "identifier", start := start + 6, stop := start + 7, field := some "name" } [],
     token ":" (start + 7) (start + 8),
     .node { kind := "block", start := start + 11, stop, field := some "body" } members]

/-- The tree of a class with a stub and a decorated stub. -/
def stubClass : Node :=
  letterClass 0 45 [letterFunction 11 24 none (idleBody 20), decoratedFunction 27 3 none]

theorem protocols_require_stubs_stubClass :
    let src := plainSource "class A:\n  def m(): pass\n  @d\n  def n(): pass\n"
    let root := moduleOf 46 [stubClass]
    let symbols := fileSymbols Faults.none "m.py" src root
    root.kind = "module" ∧ moduleName "m.py" = .ok "m" ∧
    (symbols.map (·.qualifiedName)).count "A" = 1 ∧
    ∃ facts, analyzeFile {} Faults.none "m.py" src (some root) = .ok (.facts facts) ∧
      ∃ p ∈ facts.protocols, p.name = "A" ∧ ∃ d, StatementOf src root d ∧
        p.DeclaredBy src symbols d ∧ p.RequiresBody src d.node := by
  intro src root symbols
  have hcount : (symbols.map (·.qualifiedName)).count "A" = 1 := by decide +kernel
  obtain ⟨facts, hfacts, hdeclared, hprotocol⟩ :=
    protocols_require_stubs {} {} Faults.none "m.py" "m" src root rfl rfl
  have htop : StatementOf src root { address := [0], node := stubClass } := .top ⟨rfl, rfl⟩
  obtain ⟨p, hp, hname⟩ := hprotocol rfl rfl _ "A" htop rfl (by decide +kernel) hcount
    (by decide +kernel) (List.ne_nil_of_length_pos (by decide +kernel)) (by decide +kernel)
  obtain ⟨d, hd, hd', hbody⟩ := hdeclared p hp
  exact ⟨rfl, rfl, hcount, facts, hfacts, p, hp, hname, d, hd, hd', hbody (hname ▸ hcount)⟩

/-! ## What the table hides -/

def busyBody (start : Nat) : Node :=
  .node { kind := "block", start, stop := start + 8, field := some "body" }
    [.node { kind := "return_statement", start, stop := start + 8 }
      [token "return" start (start + 6),
       .node { kind := "integer", start := start + 7, stop := start + 8 } []]]

/-- The tree of a class in which a stub follows a function of its name that does something. -/
def hiddenMethod : Node :=
  moduleOf 45
    [letterClass 0 44
      [letterFunction 11 28 none (busyBody 20), letterFunction 31 44 none (idleBody 40)]]

/-- The tree of a class that is defined again with another stub. -/
def classTwice : Node :=
  moduleOf 50
    [letterClass 0 24 [letterFunction 11 24 none (idleBody 20)],
     letterClass 25 49 [letterFunction 36 49 none (idleBody 45)]]

/-- The tree of a class with a stub and a function without a name that does something. -/
def namelessMethod : Node :=
  moduleOf 44
    [letterClass 0 43
      [letterFunction 11 24 none (idleBody 20),
       .node { kind := "function_definition", start := 27, stop := 43 } [busyBody 35]]]

/-- The lines of the classes, with the functions directly in their bodies and whether these are stubs. -/
def classBodies (src : Source) (root : Node) : List (Nat × List (Option String × Bool)) :=
  (root.preorder.filter fun n => n.kind == "class_definition").map fun d =>
    (src.line d, d.directFunctions.map fun f => (givenName? src f, f.hasStubBody src))

/-- The one protocol of a module, found without sorting. -/
theorem exists_facts_of_protocol {src : Source} {root : Node} {name : String} {line : Coordinate}
    {members : List String} (hkind : root.kind = "module")
    (hsorted : members.Pairwise (NotAfter compare))
    (h : let index := ofSymbols (fileSymbols Faults.none "m.py" src root)
      (index.allClasses.filter fun c => c.isProtocol (index.methodsOf c)).map (fun c =>
        (c.qualifiedName, c.line, (index.methodsOf c).map (·.name))) = [(name, line, members)]) :
    ∃ facts, analyzeFile {} Faults.none "m.py" src (some root) = .ok (.facts facts) ∧
      facts.protocols.map (fun p => (p.name, p.line, p.requiredMembers)) = [(name, line, members)] := by
  refine ⟨_, analyzeFile_module {} {} Faults.none "m.py" "m" src root hkind rfl, ?_⟩
  have hmap := congrArg (List.map fun e : String × Coordinate × List String =>
    (e.1, e.2.1, sortBy compare e.2.2)) h
  rw [List.map_map, List.map_singleton, sortBy_of_pairwise hsorted] at hmap
  rw [moduleFacts_protocols, Faults.run_of_none rfl]
  refine map_sortBy_of_singleton ?_
  rw [protocols, List.map_map]
  exact hmap

/-- A function that does something is no obstacle if a stub of its name follows or if it has no name, and
a class that is defined again requires the functions of both bodies. -/
theorem table_hides_functions :
    let hidden := plainSource "class A:\n  def m(): return 1\n  def m(): pass\n"
    let twice := plainSource "class A:\n  def m(): pass\nclass A:\n  def n(): pass\n"
    let nameless := plainSource "class A:\n  def m(): pass\n  def (): return 1\n"
    ((∃ facts, analyzeFile {} Faults.none "m.py" hidden (some hiddenMethod) = .ok (.facts facts) ∧
        facts.protocols.map (fun p => (p.name, p.line, p.requiredMembers)) = [("A", some 1, ["m"])]) ∧
      classBodies hidden hiddenMethod = [(1, [(some "m", false), (some "m", true)])]) ∧
    ((∃ facts, analyzeFile {} Faults.none "m.py" twice (some classTwice) = .ok (.facts facts) ∧
        facts.protocols.map (fun p => (p.name, p.line, p.requiredMembers)) =
          [("A", some 3, ["m", "n"])]) ∧
      classBodies twice classTwice = [(1, [(some "m", true)]), (3, [(some "n", true)])]) ∧
    (∃ facts, analyzeFile {} Faults.none "m.py" nameless (some namelessMethod) = .ok (.facts facts) ∧
        facts.protocols.map (fun p => (p.name, p.line, p.requiredMembers)) = [("A", some 1, ["m"])]) ∧
      classBodies nameless namelessMethod = [(1, [(some "m", true), (none, false)])] := by
  intro hidden twice nameless
  refine ⟨⟨exists_facts_of_protocol rfl (by simp) (by decide +kernel), by decide +kernel⟩,
    ⟨exists_facts_of_protocol rfl (by decide +kernel) (by decide +kernel), by decide +kernel⟩,
    exists_facts_of_protocol rfl (by simp) (by decide +kernel), by decide +kernel⟩

end SourceFacts
