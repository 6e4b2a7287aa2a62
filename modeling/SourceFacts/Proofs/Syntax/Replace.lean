import Mathlib.Data.List.Forall2
import SourceFacts.Proofs.Syntax.Outline
import SourceFacts.Proofs.Syntax.Path

/-!
# One statement in place of another

A tree in which one node gave way to another one. Around that place all nodes keep their labels, and
what a reader of expressions sees of them.
-/

namespace SourceFacts.Node

/-- A child of a node with an allowed label gives way to another node. -/
inductive Replaces (allowed : Label → Prop) (s s' : Node) : Node → Node → Prop where
  | here {l : Label} {before after : List Node} (h : allowed l) :
      Replaces allowed s s' (.node l (before ++ s :: after)) (.node l (before ++ s' :: after))
  | inside {l : Label} {before after : List Node} {n n' : Node} (h : Replaces allowed s s' n n') :
      Replaces allowed s s' (.node l (before ++ n :: after)) (.node l (before ++ n' :: after))

/-- The kinds of the nodes that hold statements together, and of the marks between these. -/
def scaffoldKinds : List String :=
  ["if_statement", "block", "with_statement", "with_clause", "async", "with", "(", ")", ",", ":",
   "comment", "line_continuation"]

/-- The node is there for others: it is in the source and has no content of its own. -/
def isScaffold (n : Node) : Bool :=
  !n.label.isMissing && scaffoldKinds.contains n.kind

/-- The test passes no scaffold, and asks for the label alone. -/
structure Passes (p : Node → Bool) : Prop where
  label : ∀ n n', n'.label = n.label → p n' = p n
  scaffold : ∀ n, n.isScaffold = true → p n = false

/-- The second node can be put for the first one wherever it is allowed: it stands in no role, shows
readers of expressions no difference, and a walk meets the same nodes in both. -/
structure Exchange (allowed : Label → Prop) (s s' : Node) : Prop where
  field : s.field = none
  field' : s'.field = none
  content : s'.isContent = s.isContent
  outline : ∀ l, allowed l → l.kind = "module" ∨ l.kind = "block" ∨ s'.outline = s.outline
  walk : ∀ cut p, Passes cut → Passes p → (walkBelow cut s').filter p = (walkBelow cut s).filter p

section Replaces

variable {allowed : Label → Prop} {s s' n n' : Node}

theorem Replaces.label_eq (h : Replaces allowed s s' n n') : n'.label = n.label := by
  cases h <;> rfl

theorem Replaces.kind_eq (h : Replaces allowed s s' n n') : n'.kind = n.kind :=
  congrArg Label.kind h.label_eq

theorem Replaces.start_eq (h : Replaces allowed s s' n n') : n'.start = n.start :=
  congrArg Label.start h.label_eq

theorem Replaces.field_eq (h : Replaces allowed s s' n n') : n'.field = n.field :=
  congrArg Label.field h.label_eq

theorem Replaces.isContent_eq (h : Replaces allowed s s' n n') : n'.isContent = n.isContent := by
  rw [isContent, isContent, h.kind_eq, h.label_eq]

variable (hx : Exchange allowed s s')

include hx

theorem Replaces.outline_eq (h : Replaces allowed s s' n n') : n'.outline = n.outline := by
  induction h with
  | @here l before after hl =>
      rw [outline, outline]
      rcases hx.outline l hl with hkind | hkind | hsame
      · rw [hkind, if_pos (by decide), if_pos (by decide)]
      · rw [hkind, if_pos (by decide), if_pos (by decide)]
      · simp only [outlines_eq_map, List.map_append, List.map_cons, hsame]
  | inside _ ih => simp only [outline, outlines_eq_map, List.map_append, List.map_cons, ih]

theorem Replaces.map_outline_children (h : Replaces allowed s s' n n')
    (hmodule : n.kind ≠ "module") (hblock : n.kind ≠ "block") :
    n'.children.map Node.outline = n.children.map Node.outline := by
  cases h with
  | @here l before after hl =>
      have hsame := ((hx.outline l hl).resolve_left hmodule).resolve_left hblock
      simp only [children_node, List.map_append, List.map_cons, hsame]
  | inside h =>
      have hsame := h.outline_eq hx
      simp only [children_node, List.map_append, List.map_cons, hsame]

end Replaces

/-- The node is the same, or something in it gave way. -/
def Touched (allowed : Label → Prop) (s s' n n' : Node) : Prop :=
  n' = n ∨ Replaces allowed s s' n n'

section Touched

variable {allowed : Label → Prop} {s s' n n' : Node}

theorem Touched.label_eq (h : Touched allowed s s' n n') : n'.label = n.label := by
  rcases h with rfl | h
  · rfl
  · exact h.label_eq

theorem Touched.outline_eq (hx : Exchange allowed s s') (h : Touched allowed s s' n n') :
    n'.outline = n.outline := by
  rcases h with rfl | h
  · rfl
  · exact h.outline_eq hx

theorem touched_rfl (n : Node) : Touched allowed s s' n n := Or.inl rfl

theorem forall₂_touched_rfl (ns : List Node) : List.Forall₂ (Touched allowed s s') ns ns := by
  induction ns with
  | nil => exact .nil
  | cons n ns ih => exact .cons (touched_rfl n) ih

end Touched

/-! ## Children in a role -/

theorem find?_append_cons {p : Node → Bool} (before after : List Node) (c : Node) :
    (before ++ c :: after).find? p =
      (before.find? p).or (if p c then some c else after.find? p) := by
  rw [List.find?_append, List.find?_cons]
  cases p c <;> rfl

section Child

variable {allowed : Label → Prop} {s s' n n' : Node} (hx : Exchange allowed s s')

include hx

/-- A child in a role is the same, or something in it gave way. -/
theorem Replaces.child? (h : Replaces allowed s s' n n') (f : String) :
    n'.child? f = n.child? f ∨
      ∃ c c', n.child? f = some c ∧ n'.child? f = some c' ∧ Replaces allowed s s' c c' := by
  cases h with
  | here _ =>
      have hs : hasField f s = false := by rw [hasField, hx.field]; rfl
      have hs' : hasField f s' = false := by rw [hasField, hx.field']; rfl
      left
      simp only [Node.child?, children_node, find?_append_cons, hs, hs', if_neg Bool.false_ne_true]
  | @inside l before after c c' h =>
      have hfield : hasField f c' = hasField f c := by rw [hasField, hasField, h.field_eq]
      simp only [Node.child?, children_node, find?_append_cons, hfield]
      cases before.find? (hasField f) with
      | some b => exact Or.inl rfl
      | none =>
          cases hasField f c with
          | false => exact Or.inl rfl
          | true => exact Or.inr ⟨c, c', rfl, rfl, h⟩

theorem Replaces.map_label_child? (h : Replaces allowed s s' n n') (f : String) :
    (n'.child? f).map Node.label = (n.child? f).map Node.label := by
  rcases h.child? hx f with heq | ⟨c, c', hc, hc', hr⟩
  · rw [heq]
  · rw [hc, hc', Option.map_some, Option.map_some, hr.label_eq]

end Child

/-! ## Walks -/

/-- A walk meets in a scaffold what it meets below it. -/
theorem filter_walkBelow_scaffold {cut p : Node → Bool} (hcut : Passes cut) (hp : Passes p) {n : Node}
    (hn : n.isScaffold = true) : (walkBelow cut n).filter p = (walkAll cut n.children).filter p := by
  cases n with
  | node l cs =>
      rw [walkBelow, hcut.scaffold _ hn, if_neg Bool.false_ne_true,
        List.filter_cons_of_neg (by rw [hp.scaffold _ hn]; decide), children_node]

theorem walkAll_append (cut : Node → Bool) (ns ms : List Node) :
    walkAll cut (ns ++ ms) = walkAll cut ns ++ walkAll cut ms := by
  simp only [walkAll_eq_flatMap, List.flatMap_append]

section Walk

variable {allowed : Label → Prop} {s s' n n' : Node} (hx : Exchange allowed s s')
variable {cut p : Node → Bool} (hcut : Passes cut) (hp : Passes p)

theorem forall₂_filter_cons {l l' : List Node} (hroot : Touched allowed s s' n n')
    (hp : Passes p) (h : List.Forall₂ (Touched allowed s s') (l.filter p) (l'.filter p)) :
    List.Forall₂ (Touched allowed s s') ((n :: l).filter p) ((n' :: l').filter p) := by
  rw [List.filter_cons, List.filter_cons, hp.label n n' hroot.label_eq]
  split
  · exact .cons hroot h
  · exact h

include hx hcut hp

/-- What a walk from the children on meets: the same nodes, in which something may have given way. -/
theorem Replaces.walkAll_children (h : Replaces allowed s s' n n') :
    List.Forall₂ (Touched allowed s s') ((walkAll cut n.children).filter p)
      ((walkAll cut n'.children).filter p) := by
  induction h with
  | @here l before after _ =>
      simp only [children_node, walkAll_append, walkAll, List.filter_append,
        hx.walk cut p hcut hp]
      exact forall₂_touched_rfl _
  | @inside l before after c c' h ih =>
      have hc : List.Forall₂ (Touched allowed s s') ((walkBelow cut c).filter p)
          ((walkBelow cut c').filter p) := by
        cases c with
        | node lc cs =>
        cases c' with
        | node lc' cs' =>
            rw [walkBelow, walkBelow, hcut.label _ _ h.label_eq]
            refine forall₂_filter_cons (Or.inr h) hp ?_
            split
            · exact .nil
            · exact ih
      simp only [children_node, walkAll_append, walkAll, List.filter_append]
      exact List.rel_append (forall₂_touched_rfl _) (List.rel_append hc (forall₂_touched_rfl _))

theorem Replaces.walk (h : Replaces allowed s s' n n') :
    List.Forall₂ (Touched allowed s s') ((n.walk cut).filter p) ((n'.walk cut).filter p) :=
  forall₂_filter_cons (Or.inr h) hp (h.walkAll_children hx hcut hp)

/-- What is read off the nodes of a walk is the same if it is the same for each of them. -/
theorem Replaces.map_walk {β : Type} {g : Node → β} (h : Replaces allowed s s' n n')
    (hg : ∀ a a', Touched allowed s s' a a' → p a = true → g a' = g a) :
    ((n'.walk cut).filter p).map g = ((n.walk cut).filter p).map g := by
  have hwalk := h.walk hx hcut hp
  have hall : ∀ a ∈ (n.walk cut).filter p, p a = true := fun a ha => (List.mem_filter.mp ha).2
  revert hwalk hall
  generalize (n.walk cut).filter p = l
  generalize (n'.walk cut).filter p = l'
  intro hwalk hall
  induction hwalk with
  | nil => rfl
  | cons hab _ ih =>
      rw [List.map_cons, List.map_cons, hg _ _ hab (hall _ List.mem_cons_self),
        ih fun a ha => hall a (List.mem_cons_of_mem _ ha)]

end Walk

end SourceFacts.Node
