import SourceFacts.Proofs.Symbol.Registry
import SourceFacts.Proofs.Symbol.Statement

/-!
# The members of a class

The functions that stand directly in the body of a class, and the symbols that name the class as their
parent. Where the body only declares and no other definition has the qualified name of the class, the
two are the same.
-/

namespace SourceFacts

open Definitions

namespace Node

/-- The function that a statement defines, with or without decorators. -/
def function? (n : Node) : Option Node :=
  if n.kind == "function_definition" then some n
  else if n.kind == "decorated_definition" then
    (n.child? "definition").filter fun d => d.kind == "function_definition"
  else none

/-- The functions that stand directly in the body of a definition. -/
def directFunctions (n : Node) : List Node :=
  match n.child? "body" with
  | some body => body.contents.filterMap function?
  | none => []

def hasStubBody (src : Source) (n : Node) : Bool :=
  (n.child? "body").any (isStubBody src)

theorem mem_directFunctions_iff {n f : Node} :
    f ∈ n.directFunctions ↔ ∃ b c, n.child? "body" = some b ∧ c ∈ b.contents ∧ c.function? = some f := by
  unfold directFunctions
  cases n.child? "body" with
  | none => simp
  | some body => simp [List.mem_filterMap]

theorem kind_of_function? {n f : Node} (h : n.function? = some f) : f.kind = "function_definition" := by
  unfold function? at h
  split at h
  · rename_i hkind
    exact Option.some.inj h ▸ beq_iff_eq.mp hkind
  split at h
  · exact beq_iff_eq.mp (Option.filter_eq_some_iff.mp h).2
  · exact absurd h (by simp)

theorem kind_of_isDeclaration {n : Node} (h : n.isDeclaration = true) :
    n.kind = "function_definition" ∨ n.kind = "pass_statement" ∨ n.kind = "expression_statement" ∨
      n.kind = "decorated_definition" ∧
        ∃ d, n.child? "definition" = some d ∧ d.kind = "function_definition" := by
  unfold isDeclaration at h
  split at h
  · rename_i hkind
    simp only [Bool.or_eq_true, beq_iff_eq] at hkind
    exact hkind.imp_right Or.inl
  split at h
  · rename_i hkind
    cases hd : n.child? "definition" with
    | none => simp [hd] at h
    | some d =>
        rw [hd, Option.any_some] at h
        exact Or.inr (Or.inr (Or.inr ⟨beq_iff_eq.mp hkind, d, rfl, beq_iff_eq.mp h⟩))
  · refine Or.inr (Or.inr (Or.inl ?_))
    by_contra hkind
    have hsole : n.soleExpression? = none := if_neg (by simpa using hkind)
    simp [isStringStatement, isEllipsisStatement, isAnnotationOnly, hsole] at h

theorem mem_contents_iff {n c : Node} : c ∈ n.contents ↔ ∃ i, n.ContentAt i c := by
  unfold contents ContentAt
  rw [List.mem_filter, List.mem_iff_getElem?]
  exact exists_and_right.symm

theorem child?_eq_some_iff {n c : Node} {f : String} :
    n.child? f = some c ↔ ∃ i, n.FirstAt f i c := by
  simp only [← firstAt?_eq_some_iff, ← map_fst_firstAt?, Option.map_eq_some_iff]
  constructor
  · rintro ⟨⟨_, i⟩, hi, rfl⟩
    exact ⟨i, hi⟩
  · rintro ⟨i, hi⟩
    exact ⟨_, hi, rfl⟩

end Node

namespace Spot

variable {src : Source} {root : Node}

theorem Gives.spec {s : Spot} {c : Symbol} (h : s.Gives src c) :
    givenName? src s.node = some c.name ∧ c.parent = s.parent.map (·.qualifiedName) ∧
      (s.symbol? src).map (·.qualifiedName) = some c.qualifiedName := by
  obtain ⟨symbol, children, hs, rfl⟩ := h
  obtain ⟨name, hname, rfl⟩ := Option.map_eq_some_iff.mp hs
  refine ⟨?_, parent_definitionSymbol .., by rw [hs]; rfl⟩
  rw [hname, name_definitionSymbol]

theorem Gives.function {s : Spot} {c : Symbol} (h : s.Gives src c)
    (hkind : s.node.kind = "function_definition") :
    c.kind = (if s.parent.any fun p => p.kind == .cls then .method else .function) ∧
      c.isStub = s.node.hasStubBody src := by
  obtain ⟨symbol, children, hs, rfl⟩ := h
  obtain ⟨name, hname, rfl⟩ := Option.map_eq_some_iff.mp hs
  simp only [definitionSymbol, hkind, beq_self_eq_true, if_true]
  exact ⟨rfl, rfl⟩

theorem Gives.class {s : Spot} {c : Symbol} (h : s.Gives src c)
    (hkind : s.node.kind ≠ "function_definition") :
    c.kind = .cls ∧ c.isStub = (s.node.child? "body").any Node.isDeclarativeBody ∧
      c.line = some (src.line s.node : Int) := by
  obtain ⟨symbol, children, hs, rfl⟩ := h
  obtain ⟨name, hname, rfl⟩ := Option.map_eq_some_iff.mp hs
  have hneg : (s.node.kind == "function_definition") = false := by simpa using hkind
  simp only [definitionSymbol, hneg, Bool.false_eq_true, if_false]
  exact ⟨rfl, rfl, rfl⟩

/-! ## Statements of a body -/

/-- The second statement stands in the body of the first one, a definition, and below no other definition
there. -/
def StandsIn (src : Source) (s t : Spot) : Prop :=
  isPlainDefinition s.node.kind = true ∧ ∃ c, s.Holds src c ∧
    Relation.ReflTransGen (fun a b => isPlainDefinition a.node.kind = false ∧ a.Holds src b) c t

theorem StandsIn.tail {s t u : Spot} (h : s.StandsIn src t)
    (ht : isPlainDefinition t.node.kind = false) (hu : t.Holds src u) : s.StandsIn src u := by
  obtain ⟨hs, c, hc, hchain⟩ := h
  exact ⟨hs, c, hc, hchain.tail ⟨ht, hu⟩⟩

/-- A statement with a parent stands in the definition of the parent. -/
theorem exists_standsIn_of_parent {t : Spot} {p : Symbol} (h : StatementOf src root t)
    (hp : t.parent = some p) :
    ∃ s, StatementOf src root s ∧ s.symbol? src = some p ∧ s.StandsIn src t := by
  induction h with
  | top hn => exact absurd hp (by simp)
  | @inside s t hs ht ih =>
      -- Every rule but the first keeps the parent and leads on from what is no definition.
      have hkeep : t.parent = s.parent → isPlainDefinition s.node.kind = false →
          ∃ s, StatementOf src root s ∧ s.symbol? src = some p ∧ s.StandsIn src t := by
        intro hparent hplain
        obtain ⟨s', hs', hsymbol, hin⟩ := ih (hparent ▸ hp)
        exact ⟨s', hs', hsymbol, hin.tail hplain ht⟩
      cases ht with
      | body hd hsymbol hb hn =>
          exact ⟨s, hs, hp ▸ hsymbol, hd, _, .body hd hsymbol hb hn, .refl⟩
      | block hc hb hk hn => exact hkeep rfl (kinds_of_compound hc).1
      | clause hc hn hk => exact hkeep rfl (kinds_of_compound hc).1
      | recovered he hn => exact hkeep rfl (by rw [he]; decide)
      | decorated hw hd hk => exact hkeep rfl (by rw [hw]; decide)

/-- What declares a member and is no definition itself holds at most the function that it decorates. -/
theorem Holds.function?_of_isDeclaration {c d : Spot} (h : c.Holds src d)
    (hdeclares : c.node.isDeclaration = true) (hplain : isPlainDefinition c.node.kind = false) :
    c.node.function? = some d.node := by
  have hkinds := Node.kind_of_isDeclaration hdeclares
  have hsimple : compoundStatements.contains c.node.kind = false ∧ c.node.kind ≠ "ERROR" := by
    rcases hkinds with hk | hk | hk | ⟨hk, _⟩ <;> rw [hk] <;> decide
  cases h with
  | body hd => exact absurd hd (Bool.eq_false_iff.mp hplain)
  | block hc => exact absurd hc (Bool.eq_false_iff.mp hsimple.1)
  | clause hc => exact absurd hc (Bool.eq_false_iff.mp hsimple.1)
  | recovered he => exact absurd he hsimple.2
  | @decorated i d hw hd hk =>
      have hchild : c.node.child? "definition" = some d := Node.child?_eq_some_iff.mpr ⟨i, hd⟩
      obtain ⟨d', hd', hfunction⟩ : ∃ d', c.node.child? "definition" = some d' ∧
          d'.kind = "function_definition" := by
        rcases hkinds with hk | hk | hk | ⟨_, hfunction⟩
        · exact absurd (hk.symm.trans hw) (by decide)
        · exact absurd (hk.symm.trans hw) (by decide)
        · exact absurd (hk.symm.trans hw) (by decide)
        · exact hfunction
      obtain rfl : d = d' := Option.some.inj (hchild.symm.trans hd')
      simp [Node.function?, hw, hchild, hfunction]

/-- In a body that only declares, the definitions are the functions that stand there directly. -/
theorem StandsIn.mem_directFunctions {s t : Spot} (h : s.StandsIn src t)
    (hbody : (s.node.child? "body").any Node.isDeclarativeBody = true)
    (ht : isPlainDefinition t.node.kind = true) : t.node ∈ s.node.directFunctions := by
  obtain ⟨hs, c, hc, hchain⟩ := h
  cases hc with
  | @body symbol i j b n hd hsymbol hb hn =>
      have hchild : s.node.child? "body" = some b := Node.child?_eq_some_iff.mpr ⟨i, hb⟩
      have hmem : n ∈ b.contents := Node.mem_contents_iff.mpr ⟨j, hn⟩
      have hdeclares : n.isDeclaration = true := by
        rw [hchild, Option.any_some, Node.isDeclarativeBody, Bool.and_eq_true] at hbody
        exact List.all_eq_true.mp hbody.2 n hmem
      refine Node.mem_directFunctions_iff.mpr ⟨b, n, hchild, hmem, ?_⟩
      have hkinds := Node.kind_of_isDeclaration hdeclares
      rcases Relation.ReflTransGen.cases_head hchain with rfl | ⟨d, ⟨hplain, hnd⟩, hrest⟩
      · -- The statement of the body is itself the definition.
        rcases hkinds with hk | hk | hk | ⟨hk, _⟩
        · simp [Node.function?, hk]
        all_goals
          rw [hk] at ht
          exact absurd ht (by decide)
      · -- The statement holds the definition, so it is a decorated one.
        have hfunction := hnd.function?_of_isDeclaration hdeclares hplain
        rcases Relation.ReflTransGen.cases_head hrest with rfl | ⟨_, ⟨hplain', _⟩, _⟩
        · exact hfunction
        · rw [Node.kind_of_function? hfunction] at hplain'
          exact absurd hplain' (by decide)
  | block hcompound => exact absurd hs (Bool.eq_false_iff.mp (kinds_of_compound hcompound).1)
  | clause hcompound => exact absurd hs (Bool.eq_false_iff.mp (kinds_of_compound hcompound).1)
  | recovered he =>
      rw [he] at hs
      exact absurd hs (by decide)
  | decorated hw =>
      rw [hw] at hs
      exact absurd hs (by decide)

/-- A function that stands directly in the body of a definition with a name is a statement with the
definition as its parent. -/
theorem exists_statement_of_directFunction {s : Spot} {p : Symbol} {f : Node}
    (hs : StatementOf src root s) (hplain : isPlainDefinition s.node.kind = true)
    (hp : s.symbol? src = some p) (hf : f ∈ s.node.directFunctions) :
    ∃ t, StatementOf src root t ∧ t.parent = some p ∧ t.node = f := by
  obtain ⟨b, c, hb, hc, hfunction⟩ := Node.mem_directFunctions_iff.mp hf
  obtain ⟨i, hb⟩ := Node.child?_eq_some_iff.mp hb
  obtain ⟨j, hc⟩ := Node.mem_contents_iff.mp hc
  have hstatement : StatementOf src root _ := .inside hs (.body hplain hp hb hc)
  unfold Node.function? at hfunction
  split at hfunction
  · exact ⟨_, hstatement, rfl, Option.some.inj hfunction⟩
  split at hfunction
  · rename_i hdecorated
    obtain ⟨hd, hk⟩ := Option.filter_eq_some_iff.mp hfunction
    obtain ⟨k, hd⟩ := Node.child?_eq_some_iff.mp hd
    have hkind : isPlainDefinition f.kind = true := by simp [isPlainDefinition, beq_iff_eq.mp hk]
    exact ⟨_, .inside hstatement (.decorated (beq_iff_eq.mp hdecorated) hd hkind), rfl, rfl⟩
  · exact absurd hfunction (by simp)

end Spot

/-! ## Symbols and the statements that give them -/

open Spot

theorem eq_of_forall₂_of_count {α β γ : Type} [DecidableEq γ] {R : α → β → Prop} {key : β → γ} {k : γ}
    {as : List α} {bs : List β} (h : List.Forall₂ R as bs) (hcount : (bs.map key).count k ≤ 1)
    {a a' : α} (ha : a ∈ as) (ha' : a' ∈ as) (hk : ∀ b, R a b → key b = k)
    (hk' : ∀ b, R a' b → key b = k) : a = a' := by
  induction h with
  | nil => exact absurd ha List.not_mem_nil
  | @cons x b as bs hxb hrest ih =>
      rw [List.map_cons, List.count_cons] at hcount
      -- If the key is that of the first pair, it is that of no other one.
      have honly : ∀ y ∈ as, key b = k → ¬ ∀ c, R y c → key c = k := by
        intro y hy hb hky
        obtain ⟨c, hc, hyc⟩ := exists_of_mem_forall₂ hrest.flip hy
        have hpos : 0 < (bs.map key).count k :=
          List.count_pos_iff.mpr (List.mem_map.mpr ⟨c, hc, hky c hyc⟩)
        rw [if_pos (beq_iff_eq.mpr hb)] at hcount
        omega
      rcases List.mem_cons.mp ha with rfl | hmem
      · rcases List.mem_cons.mp ha' with rfl | hmem'
        · rfl
        · exact absurd hk' (honly a' hmem' (hk b hxb))
      · rcases List.mem_cons.mp ha' with rfl | hmem'
        · exact absurd hk (honly a hmem (hk' b hxb))
        · exact ih (by omega) hmem hmem'

section Symbols

variable {src : Source} {file : String} {root : Node}

theorem forall₂_gives (src : Source) (file : String) (root : Node) :
    List.Forall₂ (Gives src) ((statements src root).filter (isNamed src))
      ((ofModule src file root).symbols.map (·.2)) :=
  List.forall₂_map_right_iff.mpr (forall₂_statements.imp fun _ _ h => h.2)

/-- Every symbol of a module is given by a statement. -/
theorem exists_statement_of_symbol {c : Symbol}
    (hc : c ∈ (ofModule src file root).symbols.map (·.2)) :
    ∃ s, StatementOf src root s ∧ isPlainDefinition s.node.kind = true ∧ s.Gives src c := by
  obtain ⟨s, hs, hgives⟩ := exists_of_mem_forall₂ (forall₂_gives src file root) hc
  obtain ⟨hs, hnamed⟩ := List.mem_filter.mp hs
  exact ⟨s, mem_statements_iff.mp hs, (Bool.and_eq_true_iff.mp hnamed).1, hgives⟩

variable (file) in
theorem exists_symbol_of_statement {s : Spot} {name : String} (hs : StatementOf src root s)
    (hplain : isPlainDefinition s.node.kind = true) (hname : givenName? src s.node = some name) :
    ∃ c ∈ (ofModule src file root).symbols.map (·.2), s.Gives src c := by
  have hmem : s ∈ (statements src root).filter (isNamed src) :=
    List.mem_filter.mpr ⟨mem_statements_iff.mpr hs, by simp [isNamed, hplain, hname]⟩
  exact exists_of_mem_forall₂ (forall₂_gives src file root).flip hmem

/-- A qualified name that one symbol has is that of one statement. -/
theorem eq_of_count_qualifiedName {q : String} {s t : Spot}
    (hcount : (((ofModule src file root).symbols.map (·.2)).map (·.qualifiedName)).count q ≤ 1)
    (hs : StatementOf src root s) (ht : StatementOf src root t)
    (hsplain : isPlainDefinition s.node.kind = true) (htplain : isPlainDefinition t.node.kind = true)
    (hsq : (s.symbol? src).map (·.qualifiedName) = some q)
    (htq : (t.symbol? src).map (·.qualifiedName) = some q) : s = t := by
  have hnamed : ∀ u : Spot, StatementOf src root u → isPlainDefinition u.node.kind = true →
      (u.symbol? src).map (·.qualifiedName) = some q →
      u ∈ (statements src root).filter (isNamed src) := by
    intro u hu hplain hq
    obtain ⟨symbol, hsymbol, _⟩ := Option.map_eq_some_iff.mp hq
    obtain ⟨name, hname, _⟩ := Option.map_eq_some_iff.mp hsymbol
    exact List.mem_filter.mpr ⟨mem_statements_iff.mpr hu, by simp [isNamed, hplain, hname]⟩
  exact eq_of_forall₂_of_count (forall₂_gives src file root) hcount (hnamed s hs hsplain hsq)
    (hnamed t ht htplain htq)
    (fun c hc => Option.some.inj (hc.spec.2.2.symm.trans hsq))
    (fun c hc => Option.some.inj (hc.spec.2.2.symm.trans htq))

/-- A class whose body only declares and whose qualified name no other symbol has. -/
structure SoleDeclaration (src : Source) (file : String) (root : Node) (d : Spot) (q : String) :
    Prop where
  statement : StatementOf src root d
  isClass : d.node.kind = "class_definition"
  named : (d.symbol? src).map (·.qualifiedName) = some q
  declares : (d.node.child? "body").any Node.isDeclarativeBody = true
  sole : (((ofModule src file root).symbols.map (·.2)).map (·.qualifiedName)).count q ≤ 1

namespace SoleDeclaration

variable {d : Spot} {q : String}

theorem plain (h : SoleDeclaration src file root d q) : isPlainDefinition d.node.kind = true := by
  simp [isPlainDefinition, h.isClass]

/-- The symbols in the class are methods and come from the functions directly in its body. -/
theorem exists_directFunction (h : SoleDeclaration src file root d q) {m : Symbol}
    (hm : m ∈ (ofModule src file root).symbols.map (·.2)) (hparent : m.parent = some q) :
    ∃ f ∈ d.node.directFunctions, givenName? src f = some m.name ∧ m.kind = .method ∧
      m.isStub = f.hasStubBody src := by
  obtain ⟨t, ht, htplain, hgives⟩ := exists_statement_of_symbol hm
  obtain ⟨hname, hp, _⟩ := hgives.spec
  obtain ⟨p, hp, hpq⟩ := Option.map_eq_some_iff.mp (hp.symm.trans hparent)
  obtain ⟨s, hs, hsymbol, hin⟩ := exists_standsIn_of_parent ht hp
  obtain rfl : s = d := eq_of_count_qualifiedName h.sole hs h.statement hin.1 h.plain
    (by rw [hsymbol, Option.map_some, hpq]) h.named
  have hf := hin.mem_directFunctions h.declares htplain
  obtain ⟨_, _, _, _, hfunction⟩ := Node.mem_directFunctions_iff.mp hf
  obtain ⟨hkind, hstub⟩ := hgives.function (Node.kind_of_function? hfunction)
  have hcls : p.kind = .cls :=
    (Gives.class ⟨p, p.children, hsymbol, rfl⟩ (by simp [h.isClass])).1
  refine ⟨t.node, hf, hname, ?_, hstub⟩
  rw [hkind, hp]
  simp [hcls]

theorem exists_member (h : SoleDeclaration src file root d q) {f : Node} {name : String}
    (hf : f ∈ d.node.directFunctions) (hname : givenName? src f = some name) :
    ∃ m ∈ (ofModule src file root).symbols.map (·.2), m.parent = some q ∧ m.name = name := by
  obtain ⟨p, hsymbol, hpq⟩ := Option.map_eq_some_iff.mp h.named
  obtain ⟨t, ht, hparent, rfl⟩ :=
    exists_statement_of_directFunction h.statement h.plain hsymbol hf
  obtain ⟨_, _, _, _, hfunction⟩ := Node.mem_directFunctions_iff.mp hf
  have hplain : isPlainDefinition t.node.kind = true := by
    simp [isPlainDefinition, Node.kind_of_function? hfunction]
  obtain ⟨m, hm, hgives⟩ := exists_symbol_of_statement file ht hplain hname
  obtain ⟨hname', hp, _⟩ := hgives.spec
  refine ⟨m, hm, ?_, Option.some.inj (hname'.symm.trans hname)⟩
  rw [hp, hparent, Option.map_some, hpq]

end SoleDeclaration

end Symbols

end SourceFacts
