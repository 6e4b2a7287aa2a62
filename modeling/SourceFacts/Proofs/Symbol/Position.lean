import Mathlib.Data.List.Forall2
import Mathlib.Data.List.Nodup
import SourceFacts.Proofs.Syntax.Path
import SourceFacts.Symbol.Table

/-!
# Where symbols come from

Every symbol is made from a definition in the position of a statement, and its parent from the
innermost definition in whose body that statement stands.
-/

namespace SourceFacts

theorem exists_of_mem_forall₂ {α β : Type} {R : α → β → Prop} {as : List α} {bs : List β}
    (h : List.Forall₂ R as bs) {b : β} (hb : b ∈ bs) : ∃ a ∈ as, R a b := by
  induction h with
  | nil => exact absurd hb List.not_mem_nil
  | cons hab _ ih =>
      rcases List.mem_cons.mp hb with rfl | hb
      · exact ⟨_, List.mem_cons_self, hab⟩
      · obtain ⟨a, ha, hR⟩ := ih hb
        exact ⟨a, List.mem_cons_of_mem _ ha, hR⟩

theorem Node.mem_children_of_mem_contents {n c : Node} (h : c ∈ n.contents) : c ∈ n.children :=
  (List.mem_filter.mp h).1

theorem Node.mem_children_of_child? {n c : Node} {f : String} (h : n.child? f = some c) :
    c ∈ n.children :=
  List.mem_of_find?_eq_some h

namespace Definitions

section Made

variable (src : Source)

/-- The symbol of a definition, without what its body defines. -/
def definitionSymbol (parent : Option Symbol) (decorators : List Decorator) (name : String)
    (n : Node) : Symbol :=
  if n.kind == "function_definition" then functionSymbol src parent decorators name n
  else classSymbol src parent decorators name n

/-- The symbol is made from the definition, which stands directly in the parent. -/
def MadeFrom (d : Node) (parent : Option Symbol) (s : Symbol) : Prop :=
  ∃ decorators name children, givenName? src d = some name ∧
    s = { definitionSymbol src parent decorators name d with children }

variable {src} {d : Node} {parent : Option Symbol} {s : Symbol}

theorem MadeFrom.parent_eq (h : MadeFrom src d parent s) :
    s.parent = parent.map (·.qualifiedName) := by
  obtain ⟨decorators, name, children, _, rfl⟩ := h
  dsimp only [definitionSymbol]
  split <;> rfl

theorem MadeFrom.qualifiedName_eq (h : MadeFrom src d parent s) :
    ∃ name, s.qualifiedName = qualify parent name := by
  obtain ⟨decorators, name, children, _, rfl⟩ := h
  refine ⟨name, ?_⟩
  dsimp only [definitionSymbol]
  split <;> rfl

theorem MadeFrom.kind_ne_method (h : MadeFrom src d none s) : s.kind ≠ .method := by
  obtain ⟨decorators, name, children, _, rfl⟩ := h
  dsimp only [definitionSymbol]
  split
  · simp [functionSymbol]
  · simp [classSymbol]

theorem MadeFrom.parent_shorter (h : MadeFrom src d parent s) {p : String}
    (hp : s.parent = some p) : p.length < s.qualifiedName.length := by
  obtain ⟨name, hname⟩ := h.qualifiedName_eq
  rw [h.parent_eq] at hp
  obtain ⟨symbol, rfl, rfl⟩ := Option.map_eq_some_iff.mp hp
  rw [hname]
  simp only [qualify, String.length_append]
  have hdot : ".".length = 1 := rfl
  omega

end Made

/-! ## Positions -/

section Position

variable (src : Source) (root : Node)

/-- The node stands in the position of a statement: of the module, or of the definitions whose bodies
hold it, the innermost first. Only definitions with a name are entered. -/
inductive StatementIn : List Node → Node → Prop where
  | top {n : Node} (hn : n ∈ root.contents) : StatementIn [] n
  | body {outer : List Node} {d body n : Node} (h : StatementIn outer d)
      (hd : isPlainDefinition d.kind = true) (hname : (givenName? src d).isSome = true)
      (hb : d.child? "body" = some body) (hn : n ∈ body.contents) : StatementIn (d :: outer) n
  | block {outer : List Node} {c block n : Node} (h : StatementIn outer c)
      (hc : compoundStatements.contains c.kind = true) (hb : block ∈ c.contents)
      (hk : block.kind = "block") (hn : n ∈ block.contents) : StatementIn outer n
  | clause {outer : List Node} {c n : Node} (h : StatementIn outer c)
      (hc : compoundStatements.contains c.kind = true) (hn : n ∈ c.contents)
      (hk : compoundStatements.contains n.kind = true) : StatementIn outer n
  | recovered {outer : List Node} {e n : Node} (h : StatementIn outer e) (he : e.kind = "ERROR")
      (hn : n ∈ e.contents) : StatementIn outer n
  | decorated {outer : List Node} {whole d : Node} (h : StatementIn outer whole)
      (hw : whole.kind = "decorated_definition") (hd : whole.child? "definition" = some d) :
      StatementIn outer d

theorem StatementIn.at {outer : List Node} {n : Node} (h : StatementIn src root outer n) :
    ∃ above, root.At n above ∧ ∀ d ∈ outer, d ∈ above := by
  induction h with
  | top hn => exact ⟨_, .child .root (Node.mem_children_of_mem_contents hn), by simp⟩
  | body _ _ _ hb hn ih =>
      obtain ⟨above, hat, hsub⟩ := ih
      refine ⟨_, .child (.child hat (Node.mem_children_of_child? hb))
        (Node.mem_children_of_mem_contents hn), fun x hx => ?_⟩
      rcases List.mem_cons.mp hx with rfl | hx
      · simp
      · simp [hsub x hx]
  | block _ _ hb _ hn ih =>
      obtain ⟨above, hat, hsub⟩ := ih
      exact ⟨_, .child (.child hat (Node.mem_children_of_mem_contents hb))
        (Node.mem_children_of_mem_contents hn), fun x hx => by simp [hsub x hx]⟩
  | clause _ _ hn _ ih =>
      obtain ⟨above, hat, hsub⟩ := ih
      exact ⟨_, .child hat (Node.mem_children_of_mem_contents hn),
        fun x hx => by simp [hsub x hx]⟩
  | recovered _ _ hn ih =>
      obtain ⟨above, hat, hsub⟩ := ih
      exact ⟨_, .child hat (Node.mem_children_of_mem_contents hn),
        fun x hx => by simp [hsub x hx]⟩
  | decorated _ _ hd ih =>
      obtain ⟨above, hat, hsub⟩ := ih
      exact ⟨_, .child hat (Node.mem_children_of_child? hd), fun x hx => by simp [hsub x hx]⟩

end Position

/-! ## Origins -/

section Origin

variable (src : Source) (file : String) (root : Node) (entries : List (Nat × Symbol))

/-- The symbol stands for the innermost of the definitions. Each of them has an entry, made from it
inside the next one. -/
inductive Lineage : List Node → Option Symbol → Prop where
  | module : Lineage [] none
  | inside {outer : List Node} {parent : Option Symbol} {d : Node} {s p : Symbol}
      (h : Lineage outer parent) (hin : StatementIn src root outer d)
      (hplain : isPlainDefinition d.kind = true) (hs : (d.start, s) ∈ entries)
      (hmade : MadeFrom src d parent s) (hp : s = { p with children := s.children }) :
      Lineage (d :: outer) (some p)

/-- The entry belongs to the definition, which stands in the position of a statement, and is made from
it inside the definitions around it. -/
structure OriginatesFrom (d : Node) (e : Nat × Symbol) : Prop where
  plain : isPlainDefinition d.kind = true
  start_eq : e.1 = d.start
  made : ∃ outer parent, StatementIn src root outer d ∧ Lineage src root entries outer parent ∧
    MadeFrom src d parent e.2

/-- What is entered originates from nodes of the region in order, one for each entry, provided that it
is among the entries. -/
def OriginateIn (region : List Node) (defs : Definitions) : Prop :=
  defs.symbols ⊆ entries →
    ∃ ds, ds.Sublist region ∧ List.Forall₂ (OriginatesFrom src root entries) ds defs.symbols

theorem symbols_define (parent : Option Symbol) (decorators : List Decorator) (n : Node)
    (inside : Symbol → Definitions) :
    (define src file parent decorators n inside).symbols =
      match givenName? src n with
      | none => []
      | some name =>
        let inner := inside (definitionSymbol src parent decorators name n)
        (n.start, { definitionSymbol src parent decorators name n with children := inner.direct })
          :: inner.symbols := by
  unfold define
  cases givenName? src n <;> rfl

theorem exists_moduleVariable_eq (n : Node) :
    ∃ moduleVariables, moduleVariable src n = { moduleVariables } := by
  unfold moduleVariable
  split
  · split
    · split
      · split
        · exact ⟨_, rfl⟩
        · exact ⟨[], rfl⟩
      · exact ⟨[], rfl⟩
    · exact ⟨[], rfl⟩
  · exact ⟨[], rfl⟩

theorem symbols_moduleVariable (n : Node) : (moduleVariable src n).symbols = [] := by
  obtain ⟨_, heq⟩ := exists_moduleVariable_eq src n
  rw [heq]

theorem diagnostics_moduleVariable (n : Node) : (moduleVariable src n).diagnostics = [] := by
  obtain ⟨_, heq⟩ := exists_moduleVariable_eq src n
  rw [heq]

/-- The ways in which a statement gives symbols. -/
theorem ofStatement_cases (parent : Option Symbol) (lenient : Bool) (l : Label) (cs : List Node) :
    (isPlainDefinition l.kind = true ∧ ofStatement src file parent lenient (.node l cs) =
      define src file parent [] (.node l cs) fun s => ofBody src file s cs) ∨
    (l.kind = "decorated_definition" ∧ ofStatement src file parent lenient (.node l cs) =
      ofDecorated src file parent (.node l cs) cs) ∨
    (compoundStatements.contains l.kind = true ∧
      ofStatement src file parent lenient (.node l cs) = ofClauses src file parent cs) ∨
    (l.kind = "ERROR" ∧ ofStatement src file parent lenient (.node l cs) =
      ofStatements src file parent true cs) ∨
    (ofStatement src file parent lenient (.node l cs)).symbols = [] := by
  rw [ofStatement]
  split
  · exact Or.inl ⟨by assumption, rfl⟩
  split
  · exact Or.inr (Or.inl ⟨by simp_all, rfl⟩)
  split
  · exact Or.inr (Or.inr (Or.inl ⟨by assumption, rfl⟩))
  split
  · refine Or.inr (Or.inr (Or.inr (Or.inr ?_)))
    split
    · exact symbols_moduleVariable src _
    · rfl
  split
  · exact Or.inr (Or.inr (Or.inr (Or.inl ⟨by simp_all, rfl⟩)))
  · refine Or.inr (Or.inr (Or.inr (Or.inr ?_)))
    split <;> rfl

variable {src file root entries}

theorem OriginateIn.of_nil {region : List Node} {defs : Definitions} (h : defs.symbols = []) :
    OriginateIn src root entries region defs := by
  intro _
  rw [h]
  exact ⟨[], List.nil_sublist _, .nil⟩

theorem OriginateIn.mono {region region' : List Node} {defs : Definitions}
    (h : OriginateIn src root entries region defs) (hsub : region.Sublist region') :
    OriginateIn src root entries region' defs := by
  intro hentries
  obtain ⟨ds, hds, horigins⟩ := h hentries
  exact ⟨ds, hds.trans hsub, horigins⟩

theorem OriginateIn.append {region region' : List Node} {a b : Definitions}
    (ha : OriginateIn src root entries region a) (hb : OriginateIn src root entries region' b) :
    OriginateIn src root entries (region ++ region') (a ++ b) := by
  intro hentries
  obtain ⟨hentriesA, hentriesB⟩ :=
    List.append_subset.mp (show a.symbols ++ b.symbols ⊆ entries from hentries)
  obtain ⟨ds, hds, horigins⟩ := ha hentriesA
  obtain ⟨ds', hds', horigins'⟩ := hb hentriesB
  exact ⟨ds ++ ds', hds.append hds', List.rel_append horigins horigins'⟩

theorem OriginateIn.define {outer : List Node} {parent : Option Symbol} {n : Node}
    {decorators : List Decorator} {inside : Symbol → Definitions} {region : List Node}
    (hl : Lineage src root entries outer parent) (hn : StatementIn src root outer n)
    (hplain : isPlainDefinition n.kind = true)
    (hinside : ∀ s, (givenName? src n).isSome = true →
      Lineage src root entries (n :: outer) (some s) →
      OriginateIn src root entries region (inside s)) :
    OriginateIn src root entries (n :: region) (define src file parent decorators n inside) := by
  intro hentries
  rw [symbols_define] at hentries ⊢
  cases hname : givenName? src n with
  | none => exact ⟨[], List.nil_sublist _, .nil⟩
  | some name =>
      rw [hname] at hentries
      have hmade : ∀ children, MadeFrom src n parent
          { definitionSymbol src parent decorators name n with children } :=
        fun children => ⟨decorators, name, children, hname, rfl⟩
      -- The body is read with the symbol as it is before its children are known.
      have hlineage := Lineage.inside hl hn hplain (hentries List.mem_cons_self) (hmade _) rfl
      obtain ⟨ds, hds, horigins⟩ := hinside _ (by simp [hname]) hlineage
        fun x hx => hentries (List.mem_cons_of_mem _ hx)
      exact ⟨n :: ds, hds.cons_cons n, .cons ⟨hplain, rfl, outer, parent, hn, hl, hmade _⟩ horigins⟩

mutual

theorem originateIn_ofStatement {outer : List Node} {parent : Option Symbol} {lenient : Bool}
    (hl : Lineage src root entries outer parent) : (n : Node) → StatementIn src root outer n →
    OriginateIn src root entries n.preorder (ofStatement src file parent lenient n)
  | .node l cs => by
      intro hn
      rw [Node.preorder_eq, Node.children_node]
      rcases ofStatement_cases src file parent lenient l cs with
        ⟨hk, heq⟩ | ⟨hk, heq⟩ | ⟨hk, heq⟩ | ⟨hk, heq⟩ | heq
      -- Only a definition enters the node itself; the others hand on what they find below it.
      · rw [heq]
        refine .define hl hn hk fun s hname hs => ?_
        exact originateIn_ofBody hs cs fun b hb c hc => .body hn hk hname hb hc
      · rw [heq]
        refine .mono ?_ (List.sublist_cons_self _ _)
        exact originateIn_ofDecorated hl _ cs fun d hd => .decorated hn hk hd
      · rw [heq]
        refine .mono ?_ (List.sublist_cons_self _ _)
        refine originateIn_ofClauses hl cs fun c hc hcontent => ⟨?_, ?_⟩
        · intro hblock x hx
          exact .block hn hk (List.mem_filter.mpr ⟨hc, hcontent⟩) hblock hx
        · intro hcompound
          exact .clause hn hk (List.mem_filter.mpr ⟨hc, hcontent⟩) hcompound
      · rw [heq]
        refine .mono ?_ (List.sublist_cons_self _ _)
        refine originateIn_ofStatements hl cs fun c hc hcontent => ?_
        exact .recovered hn hk (List.mem_filter.mpr ⟨hc, hcontent⟩)
      · exact .of_nil heq
termination_by structural n => n

theorem originateIn_ofStatements {outer : List Node} {parent : Option Symbol} {lenient : Bool}
    (hl : Lineage src root entries outer parent) : (ns : List Node) →
    (∀ n ∈ ns, n.isContent = true → StatementIn src root outer n) →
    OriginateIn src root entries (ns.flatMap Node.preorder)
      (ofStatements src file parent lenient ns)
  | [] => by
      intro _
      rw [ofStatements]
      exact .of_nil rfl
  | n :: ns => by
      intro hns
      rw [ofStatements, List.flatMap_cons]
      refine .append ?_
        (originateIn_ofStatements hl ns fun m hm => hns m (List.mem_cons_of_mem _ hm))
      split
      · exact originateIn_ofStatement hl n (hns n List.mem_cons_self (by assumption))
      · exact .of_nil rfl
termination_by structural ns => ns

theorem originateIn_ofBlock {outer : List Node} {parent : Option Symbol}
    (hl : Lineage src root entries outer parent) : (n : Node) →
    (∀ c ∈ n.contents, StatementIn src root outer c) →
    OriginateIn src root entries n.preorder (ofBlock src file parent n)
  | .node l cs => by
      intro hn
      rw [ofBlock, Node.preorder_eq, Node.children_node]
      refine .mono ?_ (List.sublist_cons_self _ _)
      refine originateIn_ofStatements hl cs fun c hc hcontent => ?_
      exact hn c (List.mem_filter.mpr ⟨hc, hcontent⟩)
termination_by structural n => n

theorem originateIn_ofBody {outer : List Node} {s : Symbol}
    (hl : Lineage src root entries outer (some s)) : (ns : List Node) →
    (∀ b, ns.find? (Node.hasField "body") = some b →
      ∀ c ∈ b.contents, StatementIn src root outer c) →
    OriginateIn src root entries (ns.flatMap Node.preorder) (ofBody src file s ns)
  | [] => by
      intro _
      rw [ofBody]
      exact .of_nil rfl
  | n :: ns => by
      intro hns
      rw [ofBody, List.flatMap_cons]
      split
      · rename_i hbody
        refine .mono ?_ (List.sublist_append_left _ _)
        exact originateIn_ofBlock hl n (hns n (List.find?_cons_of_pos hbody))
      · rename_i hbody
        refine .mono ?_ (List.sublist_append_right _ _)
        refine originateIn_ofBody hl ns fun b hb => hns b ?_
        rw [List.find?_cons_of_neg hbody, hb]
termination_by structural ns => ns

theorem originateIn_ofClauses {outer : List Node} {parent : Option Symbol}
    (hl : Lineage src root entries outer parent) : (ns : List Node) →
    (∀ n ∈ ns, n.isContent = true →
      (n.kind = "block" → ∀ c ∈ n.contents, StatementIn src root outer c) ∧
        (compoundStatements.contains n.kind = true → StatementIn src root outer n)) →
    OriginateIn src root entries (ns.flatMap Node.preorder) (ofClauses src file parent ns)
  | [] => by
      intro _
      rw [ofClauses]
      exact .of_nil rfl
  | n :: ns => by
      intro hns
      rw [ofClauses, List.flatMap_cons]
      refine .append ?_
        (originateIn_ofClauses hl ns fun m hm => hns m (List.mem_cons_of_mem _ hm))
      split
      · obtain ⟨hblock, hcompound⟩ := hns n List.mem_cons_self (by assumption)
        split
        · rename_i hk
          exact originateIn_ofBlock hl n (hblock (by simpa using hk))
        · split
          · exact originateIn_ofStatement hl n (hcompound (by assumption))
          · exact .of_nil rfl
      · exact .of_nil rfl
termination_by structural ns => ns

theorem originateIn_ofDecorated {outer : List Node} {parent : Option Symbol}
    (hl : Lineage src root entries outer parent) (whole : Node) : (ns : List Node) →
    (∀ d, ns.find? (Node.hasField "definition") = some d → StatementIn src root outer d) →
    OriginateIn src root entries (ns.flatMap Node.preorder) (ofDecorated src file parent whole ns)
  | [] => by
      intro _
      rw [ofDecorated]
      exact .of_nil rfl
  | n :: ns => by
      intro hns
      rw [ofDecorated, List.flatMap_cons]
      split
      · rename_i hd
        refine .mono ?_ (List.sublist_append_left _ _)
        exact originateIn_ofDefinition hl n (hns n (List.find?_cons_of_pos hd))
      · rename_i hd
        refine .mono ?_ (List.sublist_append_right _ _)
        refine originateIn_ofDecorated hl whole ns fun d hfind => hns d ?_
        rw [List.find?_cons_of_neg hd, hfind]
termination_by structural ns => ns

theorem originateIn_ofDefinition {outer : List Node} {parent : Option Symbol}
    {decorators : List Decorator} (hl : Lineage src root entries outer parent) : (n : Node) →
    StatementIn src root outer n →
    OriginateIn src root entries n.preorder (ofDefinition src file parent decorators n)
  | .node l cs => by
      intro hn
      rw [ofDefinition, Node.preorder_eq, Node.children_node]
      split
      · rename_i hk
        refine .define hl hn hk fun s hname hs => ?_
        exact originateIn_ofBody hs cs fun b hb c hc => .body hn hk hname hb hc
      · exact .of_nil rfl
termination_by structural n => n

end

/-- The symbols of a module originate from nodes of its tree, in pre-order. -/
theorem originateIn_ofModule (src : Source) (file : String) (root : Node) :
    ∃ ds, ds.Sublist root.preorder ∧
      List.Forall₂ (OriginatesFrom src root (ofModule src file root).symbols) ds
        (ofModule src file root).symbols := by
  have h : OriginateIn src root (ofModule src file root).symbols
      (root.children.flatMap Node.preorder) (ofStatements src file none false root.children) :=
    originateIn_ofStatements .module root.children fun n hn hcontent =>
      .top (List.mem_filter.mpr ⟨hn, hcontent⟩)
  rw [Node.preorder_eq]
  exact h.mono (List.sublist_cons_self _ _) (fun x hx => hx)

end Origin

/-! ## Distinct starts -/

/-- The definitions of functions and classes in a tree start at distinct offsets. -/
def DistinctStarts (root : Node) : Prop :=
  ((root.preorder.filter fun n => isPlainDefinition n.kind).map Node.start).Nodup

instance (root : Node) : Decidable (DistinctStarts root) :=
  inferInstanceAs (Decidable (List.Nodup _))

/-- The offset of a definition then tells where it stands. -/
theorem DistinctStarts.place_unique {root d d' : Node} {above above' : List Node}
    (h : DistinctStarts root) (hd : isPlainDefinition d.kind = true)
    (hd' : isPlainDefinition d'.kind = true) (hat : root.At d above) (hat' : root.At d' above')
    (hstart : d.start = d'.start) : d = d' ∧ above = above' := by
  unfold DistinctStarts at h
  rw [← Node.map_fst_visits [] root, List.filter_map, List.map_map] at h
  have heq : (d, above) = (d', above') :=
    List.inj_on_of_nodup_map h (List.mem_filter.mpr ⟨Node.mem_visits_iff.mpr hat, hd⟩)
      (List.mem_filter.mpr ⟨Node.mem_visits_iff.mpr hat', hd'⟩) hstart
  exact ⟨congrArg Prod.fst heq, congrArg Prod.snd heq⟩

theorem DistinctStarts.nodup_entries {src : Source} {root : Node}
    {entries symbols : List (Nat × Symbol)} {ds : List Node} (h : DistinctStarts root)
    (hds : ds.Sublist root.preorder)
    (horigins : List.Forall₂ (OriginatesFrom src root entries) ds symbols) :
    (symbols.map (·.1)).Nodup := by
  have hstarts : ds.map Node.start = symbols.map (·.1) := by
    rw [← List.forall₂_eq_eq_eq, List.forall₂_map_left_iff, List.forall₂_map_right_iff]
    exact horigins.imp fun d e he => he.start_eq.symm
  have hplain : ds.filter (fun n => isPlainDefinition n.kind) = ds := by
    rw [List.filter_eq_self]
    intro d hd
    obtain ⟨e, _, he⟩ := exists_of_mem_forall₂ horigins.flip hd
    exact he.plain
  rw [← hstarts, ← hplain]
  exact h.sublist ((hds.filter _).map _)

end Definitions

end SourceFacts
