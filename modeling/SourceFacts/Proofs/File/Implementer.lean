import SourceFacts.Proofs.File.Protocol
import SourceFacts.Proofs.Symbol.Search

/-!
# Who implements a protocol

A class that is no protocol itself implements a protocol because a base of it names the protocol, or else
because it has all methods that are required. For each such class and each protocol there is one
implementer if one of these holds, and none if not.
-/

namespace SourceFacts

open SymbolIndex

/-! ## Names of bases -/

namespace Text

theorem lastPart_eq_iff {name simple : String} :
    lastPart name = simple ↔
      '.' ∉ simple.toList ∧ (name = simple ∨ ∃ start, name = start ++ "." ++ simple) := by
  constructor
  · rintro rfl
    by_cases hdot : isDotted name = true
    · obtain ⟨start, last, rfl, hlast⟩ := exists_eq_append_of_isDotted hdot
      rw [lastPart_append hlast]
      exact ⟨hlast, Or.inr ⟨start, rfl⟩⟩
    · have hplain : '.' ∉ name.toList := by simpa [isDotted] using hdot
      rw [lastPart_of_not_dotted hplain]
      exact ⟨hplain, Or.inl rfl⟩
  · rintro ⟨hsimple, rfl | ⟨start, rfl⟩⟩
    · exact lastPart_of_not_dotted hsimple
    · exact lastPart_append hsimple start

theorem beforeFirst_eq_iff {sep : Char} {s start : String} :
    beforeFirst sep s = start ↔
      sep ∉ start.toList ∧ (s = start ∨ ∃ rest, s = start ++ String.singleton sep ++ rest) := by
  constructor
  · rintro rfl
    refine ⟨?_, ?_⟩
    · intro hsep
      rw [beforeFirst, String.toList_ofList] at hsep
      simpa using List.mem_takeWhile_imp hsep
    · have hsplit : s.toList = s.toList.takeWhile (· != sep) ++ s.toList.dropWhile (· != sep) :=
        List.takeWhile_append_dropWhile.symm
      cases hrest : s.toList.dropWhile (· != sep) with
      | nil =>
          rw [hrest, List.append_nil] at hsplit
          rw [beforeFirst, ← hsplit, String.ofList_toList]
          exact Or.inl rfl
      | cons c rest =>
          have hc : c = sep := by
            have hne : s.toList.dropWhile (· != sep) ≠ [] := by simp [hrest]
            have hhead := List.head_dropWhile_not (· != sep) hne
            simpa [hrest] using hhead
          subst hc
          refine Or.inr ⟨String.ofList rest, String.toList_injective ?_⟩
          rw [hrest] at hsplit
          simpa [beforeFirst] using hsplit
  · rintro ⟨hstart, hs⟩
    have hall : ∀ c ∈ start.toList, (c != sep) = true := by
      intro c hc
      simpa using fun heq : c = sep => hstart (heq ▸ hc)
    rcases hs with rfl | ⟨rest, rfl⟩
    · rw [beforeFirst, List.takeWhile_eq_self_iff.mpr hall, String.ofList_toList]
    · rw [beforeFirst, String.append_assoc, String.toList_append, List.takeWhile_append_of_pos hall]
      simp

theorem endsWith_dot_iff {simple s : String} :
    endsWith ("." ++ simple) s = true ↔ ∃ start, s = start ++ "." ++ simple := by
  rw [endsWith, List.isSuffixOf_iff_suffix]
  constructor
  · rintro ⟨start, hstart⟩
    refine ⟨String.ofList start, String.toList_injective ?_⟩
    simpa using hstart.symm
  · rintro ⟨start, rfl⟩
    exact ⟨start.toList, by simp⟩

end Text

namespace Symbol

/-- The text is that of the base, without blanks around it and without what stands in brackets. -/
def IsBaseText (base text : String) : Prop :=
  ∃ start, '[' ∉ start.toList ∧ (base = start ∨ ∃ rest, base = start ++ "[" ++ rest) ∧
    text = Text.strip start

/-- The name is the last part of a dotted one. -/
def IsLastName (name simple : String) : Prop :=
  '.' ∉ simple.toList ∧ (name = simple ∨ ∃ start, name = start ++ "." ++ simple)

/-- A base of the class names the protocol: by its name, by its last name, or by a name that ends in
the last one. -/
def Names (c : Symbol) (name : String) : Prop :=
  ∃ base ∈ c.bases, ∃ text simple, IsBaseText base text ∧ IsLastName name simple ∧
    (text = name ∨ text = simple ∨ ∃ start, text = start ++ "." ++ simple)

theorem isBaseText_iff {base text : String} : IsBaseText base text ↔ baseName base = text := by
  constructor
  · rintro ⟨start, hstart, hbase, rfl⟩
    rw [baseName, Text.beforeFirst_eq_iff.mpr ⟨hstart, hbase⟩]
  · rintro rfl
    obtain ⟨hstart, hbase⟩ := Text.beforeFirst_eq_iff.mp (rfl : Text.beforeFirst '[' base = _)
    exact ⟨_, hstart, hbase, rfl⟩

theorem namesProtocol_iff {c : Symbol} {name : String} :
    c.namesProtocol name = true ↔ c.Names name := by
  simp only [namesProtocol, Names, List.any_map, List.any_eq_true, Function.comp_apply,
    Bool.or_eq_true, beq_iff_eq, Text.endsWith_dot_iff, isBaseText_iff, IsLastName,
    ← Text.lastPart_eq_iff, or_assoc]
  constructor
  · rintro ⟨base, hbase, h⟩
    exact ⟨base, hbase, _, _, rfl, rfl, h⟩
  · rintro ⟨base, hbase, _, _, rfl, rfl, h⟩
    exact ⟨base, hbase, h⟩

/-- For each of the names the class has a method, the last symbol of the name in it. -/
def HasMethods (symbols : List Symbol) (c : Symbol) (names : List String) : Prop :=
  ∀ name ∈ names, ∃ m, IsLastIn symbols (some c.qualifiedName) name m ∧ m.kind = .method

/-- Why a class implements a protocol: it names it, or else has all it requires. -/
inductive Implements (symbols : List Symbol) (c : Symbol) (p : Protocol) : MatchKind → Prop where
  | nominal (h : c.Names p.name) : Implements symbols c p .nominal
  | structural (h : ¬ c.Names p.name) (hall : c.HasMethods symbols p.requiredMembers) :
      Implements symbols c p .structural

variable {symbols : List Symbol} {c : Symbol} {p : Protocol}

theorem all_methodsOf_iff {names : List String} :
    (names.all fun name => ((ofSymbols symbols).methodsOf c).any fun m => m.name == name) = true ↔
      c.HasMethods symbols names := by
  simp only [List.all_eq_true, List.any_eq_true, beq_iff_eq, mem_methodsOf_iff, HasMethods]
  refine forall₂_congr fun name _ => ?_
  constructor
  · rintro ⟨m, ⟨hlast, hkind⟩, rfl⟩
    exact ⟨m, hlast, hkind⟩
  · rintro ⟨m, hlast, hkind⟩
    obtain ⟨_, _, rfl⟩ := hlast.spec
    exact ⟨m, ⟨hlast, hkind⟩, rfl⟩

theorem implements?_eq_some_iff {kind : MatchKind} :
    c.implements? ((ofSymbols symbols).methodsOf c) p = some kind ↔ c.Implements symbols p kind := by
  unfold implements?
  by_cases hnames : c.Names p.name
  · rw [if_pos (namesProtocol_iff.mpr hnames)]
    constructor
    · rintro ⟨⟩
      exact .nominal hnames
    · rintro (_ | ⟨h, _⟩)
      · rfl
      · exact absurd hnames h
  · rw [if_neg (mt namesProtocol_iff.mp hnames)]
    by_cases hall : c.HasMethods symbols p.requiredMembers
    · rw [if_pos (all_methodsOf_iff.mpr hall)]
      constructor
      · rintro ⟨⟩
        exact .structural hnames hall
      · rintro (h | _)
        · exact absurd h hnames
        · rfl
    · rw [if_neg (mt all_methodsOf_iff.mp hall)]
      constructor
      · exact fun h => absurd h (by simp)
      · rintro (h | ⟨_, h⟩)
        · exact absurd h hnames
        · exact absurd h hall

/-- The class is the last definition of its name, and no protocol. -/
structure Candidate (symbols : List Symbol) (protocols : List Protocol) (c : Symbol) : Prop where
  isClass : c.kind = .cls
  last : (symbols.filter fun s => decide (s.qualifiedName = c.qualifiedName)).getLast? = some c
  apart : ∀ p ∈ protocols, p.name ≠ c.qualifiedName

theorem Candidate.perm {protocols protocols' : List Protocol} (hc : c.Candidate symbols protocols)
    (h : protocols.Perm protocols') : c.Candidate symbols protocols' :=
  ⟨hc.isClass, hc.last, fun p hp => hc.apart p (h.mem_iff.mpr hp)⟩

end Symbol

/-! ## Pairs of a class and a protocol -/

/-- The protocol and the class. -/
def Implementer.pair (i : Implementer) : String × String := (i.protocol, i.className)

theorem filter_eq_singleton_of_nodup_map {α κ : Type} [DecidableEq κ] {key : α → κ} {l : List α}
    (h : (l.map key).Nodup) {x : α} (hx : x ∈ l) :
    l.filter (fun y => decide (key y = key x)) = [x] := by
  induction l with
  | nil => exact absurd hx List.not_mem_nil
  | cons y l ih =>
      obtain ⟨hy, hl⟩ := List.nodup_cons.mp h
      rcases List.mem_cons.mp hx with rfl | hx
      · have hnone : l.filter (fun z => decide (key z = key x)) = [] := by
          rw [List.filter_eq_nil_iff]
          intro z hz hkey
          exact hy (of_decide_eq_true hkey ▸ List.mem_map_of_mem hz)
        rw [List.filter_cons_of_pos (by simp), hnone]
      · have hne : key y ≠ key x := fun heq => hy (heq ▸ List.mem_map_of_mem hx)
        rw [List.filter_cons_of_neg (by simpa using hne), ih hl hx]

section Table

variable {symbols : List Symbol}

/-- A protocol is told by its name. -/
theorem eq_of_mem_protocols {p p' : Protocol} (h : p ∈ (ofSymbols symbols).protocols)
    (h' : p' ∈ (ofSymbols symbols).protocols) (hname : p.name = p'.name) : p = p' := by
  obtain ⟨c, hget, _, _, rfl⟩ := mem_protocols_iff.mp h
  obtain ⟨c', hget', _, _, rfl⟩ := mem_protocols_iff.mp h'
  change c.qualifiedName = c'.qualifiedName at hname
  rw [hname, hget'] at hget
  rw [Option.some.inj hget]

theorem candidate_iff {c : Symbol} :
    c.Candidate symbols (ofSymbols symbols).protocols ↔
      c ∈ (ofSymbols symbols).allClasses ∧ c.isProtocol ((ofSymbols symbols).methodsOf c) = false := by
  rw [mem_allClasses_iff]
  constructor
  · rintro ⟨hclass, hlast, hapart⟩
    rw [← get?_ofSymbols] at hlast
    refine ⟨⟨hlast, hclass⟩, Bool.eq_false_iff.mpr fun hprotocol => ?_⟩
    exact hapart _ (mem_protocols_iff.mpr ⟨c, hlast, hclass, hprotocol, rfl⟩) rfl
  · rintro ⟨⟨hlast, hclass⟩, hprotocol⟩
    refine ⟨hclass, (get?_ofSymbols ..).symm.trans hlast, ?_⟩
    intro p hp hname
    obtain ⟨c', hget, _, hprotocol', rfl⟩ := mem_protocols_iff.mp hp
    change c'.qualifiedName = c.qualifiedName at hname
    rw [hname, hlast] at hget
    rw [← Option.some.inj hget, hprotocol] at hprotocol'
    exact absurd hprotocol' Bool.false_ne_true

theorem mem_implementers_iff {i : Implementer} :
    i ∈ (ofSymbols symbols).implementers ↔
      ∃ c : Symbol, c.Candidate symbols (ofSymbols symbols).protocols ∧
        ∃ p ∈ (ofSymbols symbols).protocols, ∃ kind, c.Implements symbols p kind ∧
          ⟨p.name, c.qualifiedName, kind, c.line⟩ = i := by
  simp only [implementers, List.mem_flatMap, List.mem_filter, List.mem_filterMap, candidate_iff,
    Option.map_eq_some_iff, Symbol.implements?_eq_some_iff, Bool.not_eq_true']

/-- No class is paired with a protocol twice. -/
theorem nodup_implementers (symbols : List Symbol) :
    ((ofSymbols symbols).implementers.map (·.pair)).Nodup := by
  have hclasses := List.pairwise_map.mp (nodup_allClasses symbols)
  have hprotocols : (ofSymbols symbols).protocols.Pairwise fun p p' => p.name ≠ p'.name := by
    rw [protocols, List.pairwise_map]
    exact hclasses.sublist List.filter_sublist
  rw [List.Nodup, List.pairwise_map, implementers, List.pairwise_flatMap]
  constructor
  · -- One class: the protocols differ.
    intro c _
    rw [List.pairwise_filterMap]
    refine hprotocols.imp fun {p p'} hne i hi i' hi' => ?_
    obtain ⟨_, _, rfl⟩ := Option.map_eq_some_iff.mp hi
    obtain ⟨_, _, rfl⟩ := Option.map_eq_some_iff.mp hi'
    exact fun heq => hne (Prod.mk.inj heq).1
  · refine (hclasses.sublist List.filter_sublist).imp fun {c c'} hne i hi i' hi' => ?_
    obtain ⟨_, _, hi⟩ := List.mem_filterMap.mp hi
    obtain ⟨_, _, hi'⟩ := List.mem_filterMap.mp hi'
    obtain ⟨_, _, rfl⟩ := Option.map_eq_some_iff.mp hi
    obtain ⟨_, _, rfl⟩ := Option.map_eq_some_iff.mp hi'
    exact fun heq => hne (Prod.mk.inj heq).2

end Table

namespace Implementer

/-- For the classes among some symbols, the list has one implementer for each class and each protocol
that it implements, and nothing else. -/
structure Exact (symbols : List Symbol) (protocols : List Protocol) (found : List Implementer) :
    Prop where
  distinct : (found.map (·.pair)).Nodup
  paired : ∀ i ∈ found, ∃ c : Symbol, c.Candidate symbols protocols ∧
    ∃ p ∈ protocols, i.pair = (p.name, c.qualifiedName)
  matched : ∀ (c : Symbol) (p : Protocol) (kind : MatchKind), c.Candidate symbols protocols →
    p ∈ protocols → c.Implements symbols p kind →
      found.filter (fun i => decide (i.pair = (p.name, c.qualifiedName))) =
        [⟨p.name, c.qualifiedName, kind, c.line⟩]
  unmatched : ∀ (c : Symbol) (p : Protocol), c.Candidate symbols protocols → p ∈ protocols →
    (∀ kind, ¬ c.Implements symbols p kind) →
      found.filter (fun i => decide (i.pair = (p.name, c.qualifiedName))) = []
  /-- No protocol implements a protocol. -/
  apart : ∀ i ∈ found, ∀ p ∈ protocols, p.name ≠ i.className
  /-- What has no base that names the protocol has the methods. -/
  methods : ∀ i ∈ found, i.matchKind = .structural → ∀ p ∈ protocols, p.name = i.protocol →
    ∀ name ∈ p.requiredMembers,
      ∃ m ∈ symbols, m.kind = .method ∧ m.name = name ∧ m.parent = some i.className

theorem exact_implementers (symbols : List Symbol) :
    Exact symbols (ofSymbols symbols).protocols (ofSymbols symbols).implementers where
  distinct := nodup_implementers symbols
  paired := by
    intro i hi
    obtain ⟨c, hc, p, hp, kind, _, rfl⟩ := mem_implementers_iff.mp hi
    exact ⟨c, hc, p, hp, rfl⟩
  matched := by
    intro c p kind hc hp himplements
    exact filter_eq_singleton_of_nodup_map (nodup_implementers symbols)
      (mem_implementers_iff.mpr ⟨c, hc, p, hp, kind, himplements, rfl⟩)
  unmatched := by
    intro c p hc hp hnone
    rw [List.filter_eq_nil_iff]
    intro i hi hpair
    -- Names tell classes and protocols apart, so what has the pair comes from these two.
    obtain ⟨c', hc', p', hp', kind, himplements, rfl⟩ := mem_implementers_iff.mp hi
    obtain ⟨hprotocol, hclass⟩ := Prod.mk.inj (of_decide_eq_true hpair)
    change p'.name = p.name at hprotocol
    change c'.qualifiedName = c.qualifiedName at hclass
    obtain rfl := eq_of_mem_protocols hp' hp hprotocol
    have hlast := hc'.last
    rw [hclass, hc.last] at hlast
    obtain rfl := Option.some.inj hlast
    exact hnone kind himplements
  apart := by
    intro i hi p hp
    obtain ⟨c, hc, _, _, _, _, rfl⟩ := mem_implementers_iff.mp hi
    exact hc.apart p hp
  methods := by
    intro i hi hkind p hp hname name hrequired
    obtain ⟨c, hc, p', hp', kind, himplements, rfl⟩ := mem_implementers_iff.mp hi
    obtain rfl := eq_of_mem_protocols hp hp' hname
    cases himplements with
    | nominal => exact absurd hkind (by simp)
    | structural _ hall =>
        obtain ⟨m, hlast, hmethod⟩ := hall name hrequired
        obtain ⟨hmem, hparent, hm⟩ := hlast.spec
        exact ⟨m, hmem, hmethod, hm, hparent⟩

variable {symbols : List Symbol} {protocols protocols' : List Protocol} {found found' : List Implementer}

/-- The order of the protocols and of the implementers does not matter. -/
theorem Exact.perm (h : Exact symbols protocols found) (hprotocols : protocols.Perm protocols')
    (hfound : found.Perm found') : Exact symbols protocols' found' where
  distinct := (hfound.map _).nodup_iff.mp h.distinct
  paired := by
    intro i hi
    obtain ⟨c, hc, p, hp, hpair⟩ := h.paired i (hfound.mem_iff.mpr hi)
    exact ⟨c, hc.perm hprotocols, p, hprotocols.mem_iff.mp hp, hpair⟩
  matched := by
    intro c p kind hc hp himplements
    have hone := h.matched c p kind (hc.perm hprotocols.symm) (hprotocols.mem_iff.mpr hp) himplements
    exact List.perm_singleton.mp (hone ▸ (hfound.filter _).symm)
  unmatched := by
    intro c p hc hp hnone
    have hnil := h.unmatched c p (hc.perm hprotocols.symm) (hprotocols.mem_iff.mpr hp) hnone
    exact List.perm_nil.mp (hnil ▸ (hfound.filter _).symm)
  apart := fun i hi p hp => h.apart i (hfound.mem_iff.mpr hi) p (hprotocols.mem_iff.mpr hp)
  methods := fun i hi hkind p hp =>
    h.methods i (hfound.mem_iff.mpr hi) hkind p (hprotocols.mem_iff.mpr hp)

theorem Exact.nil (symbols : List Symbol) : Exact symbols [] [] where
  distinct := List.nodup_nil
  paired := by simp
  matched := by simp
  unmatched := by simp
  apart := by simp
  methods := by simp

end Implementer

/-- For each class that is the last definition of its name and no protocol, and for each protocol, there
is one implementer if a base of the class names the protocol or else if the class has the methods that
are required, and none if not. -/
theorem implementers_exact :
    (∀ symbols : List Symbol, Implementer.Exact symbols (ofSymbols symbols).protocols
      (ofSymbols symbols).implementers) ∧
    ∀ (config : Config) (misfits : Misfits) (faults : Faults) (file module : String) (src : Source)
      (root : Node), root.kind = "module" → moduleName file = .ok module →
      let symbols := fileSymbols faults file src root
      ∃ facts, analyzeFile config faults file src (some root) misfits = .ok (.facts facts) ∧
        Implementer.Exact symbols facts.protocols facts.implementers ∧
        (faults .protocols = none → facts.protocols.Perm (ofSymbols symbols).protocols ∧
          facts.implementers.Perm (ofSymbols symbols).implementers) := by
  refine ⟨Implementer.exact_implementers, ?_⟩
  intro config misfits faults file module src root hkind hname symbols
  refine ⟨_, analyzeFile_module config misfits faults file module src root hkind hname, ?_, ?_⟩
  · rw [moduleFacts_protocols, moduleFacts_implementers]
    refine Implementer.Exact.perm ?_ (sortBy_perm _ _).symm (sortBy_perm _ _).symm
    unfold Faults.run
    split
    · exact Implementer.Exact.nil symbols
    · exact Implementer.exact_implementers symbols
  · intro hfault
    rw [moduleFacts_protocols, moduleFacts_implementers, Faults.run_of_none hfault,
      Faults.run_of_none hfault]
    exact ⟨sortBy_perm _ _, sortBy_perm _ _⟩

/-- The tree of a class with a base and nothing in its body. -/
def derivedClass : Node :=
  .node { kind := "class_definition", start := 25, stop := 46 }
    [token "class" 25 30,
     .node { kind := "identifier", start := 31, stop := 32, field := some "name" } [],
     .node { kind := "argument_list", start := 32, stop := 40, field := some "superclasses" }
      [token "(" 32 33, .node { kind := "subscript", start := 33, stop := 39 } [], token ")" 39 40],
     token ":" 40 41, idleBody 42]

/-- The base is a generic one of another module by its text, and still names the protocol. The third
class names nothing, but has the method. -/
theorem implementers_exact_bothKinds :
    let src := plainSource
      "class A:\n  def m(): pass\nclass B(x.A[t]): pass\nclass C:\n  def m(): return 1\n"
    let root := moduleOf 76
      [letterClass 0 24 [letterFunction 11 24 none (idleBody 20)], derivedClass,
       letterClass 47 75 [letterFunction 58 75 none (busyBody 67)]]
    let symbols := fileSymbols Faults.none "m.py" src root
    let found := (ofSymbols symbols).implementers
    root.kind = "module" ∧ moduleName "m.py" = .ok "m" ∧
    (ofSymbols symbols).protocols.map (·.name) = ["A"] ∧
    found.map (fun i => (i.pair, i.matchKind)) = [(("A", "B"), .nominal), (("A", "C"), .structural)] ∧
    ∃ facts, analyzeFile {} Faults.none "m.py" src (some root) = .ok (.facts facts) ∧
      Implementer.Exact symbols facts.protocols facts.implementers ∧
      facts.implementers.Perm found := by
  intro src root symbols found
  obtain ⟨_, hfile⟩ := implementers_exact
  obtain ⟨facts, hfacts, hexact, hperm⟩ := hfile {} {} Faults.none "m.py" "m" src root rfl rfl
  exact ⟨rfl, rfl, by decide +kernel, by decide +kernel, facts, hfacts, hexact, (hperm rfl).2⟩

end SourceFacts
