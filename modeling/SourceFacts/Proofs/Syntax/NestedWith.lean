import SourceFacts.Proofs.Syntax.Replace

/-!
# Nested `with` statements

A `with` statement with several items, and statements with one item each, one in another. A walk meets
the same nodes in both: those of the items and those of the body.
-/

namespace SourceFacts.Node

/-- The kinds of the words and signs of a `with` statement, and of what may stand between them. -/
def markKinds : List String :=
  ["async", "with", "(", ")", ",", ":", "comment", "line_continuation"]

def isMark (n : Node) : Bool :=
  markKinds.contains n.kind && !n.label.isMissing && n.field.isNone && n.children.isEmpty

/-- The children that are no marks. -/
def parts (n : Node) : List Node :=
  n.children.filter fun c => !c.isMark

/-- The node holds the items of a `with` statement. -/
structure IsClause (items : List Node) (clause : Node) : Prop where
  kind : clause.kind = "with_clause"
  isNamed : clause.label.isNamed = true
  present : clause.label.isMissing = false
  field : clause.field = none
  parts : clause.parts = items

/-- The node is a `with` statement, asynchronous or not, with the given items and body. -/
structure IsWith (isAsync : Bool) (items : List Node) (body w : Node) : Prop where
  kind : w.kind = "with_statement"
  present : w.label.isMissing = false
  async : w.hasChild "async" = isAsync
  parts : ∃ clause, IsClause items clause ∧ w.parts = [clause, body]
  bodyKind : body.kind = "block"
  bodyField : body.field = some "body"
  bodyNamed : body.label.isNamed = true

/-- The node is a `with` statement with the first item, which holds nothing but one with the second
item, and so on down to the body. -/
inductive Nests (isAsync : Bool) (body : Node) : List Node → Node → Prop where
  | last {item w : Node} (h : IsWith isAsync [item] body w) : Nests isAsync body [item] w
  | cons {item w block inner : Node} {items : List Node} (h : IsWith isAsync [item] block w)
      (present : block.label.isMissing = false) (children : block.children = [inner])
      (content : inner.isContent = true) (rest : Nests isAsync body items inner) :
      Nests isAsync body (item :: items) w

/-- The name that an item of a `with` statement binds. -/
def boundName? (src : Source) (item : Node) : Option String :=
  (item.child? "value").bind fun value => (value.child? "alias").map src.text

/-- Some call in the node goes through the name. -/
def callsThrough (src : Source) (name : String) (n : Node) : Bool :=
  n.preorder.any fun c => c.kind == "call" && (c.callee? src).map Text.firstPart == some name

/-! ## Marks -/

section Marks

variable {n : Node} (h : n.isMark = true)

include h

theorem kind_of_isMark : markKinds.contains n.kind = true := by
  simp only [isMark, Bool.and_eq_true] at h
  exact h.1.1.1

theorem field_of_isMark : n.field = none := by
  simp only [isMark, Bool.and_eq_true] at h
  exact Option.isNone_iff_eq_none.mp h.1.2

theorem children_of_isMark : n.children = [] := by
  simp only [isMark, Bool.and_eq_true] at h
  exact List.isEmpty_iff.mp h.2

theorem isScaffold_of_isMark : n.isScaffold = true := by
  have hkinds : ∀ kind ∈ markKinds, scaffoldKinds.contains kind = true := by decide
  have hscaffold := hkinds n.kind (List.contains_iff_mem.mp (kind_of_isMark h))
  simp only [isMark, Bool.and_eq_true] at h
  rw [isScaffold, h.1.1.2, hscaffold]
  rfl

theorem kind_ne_of_isMark {kind : String} (hkind : markKinds.contains kind = false) :
    n.kind ≠ kind := by
  intro heq
  have hmark := kind_of_isMark h
  rw [heq, hkind] at hmark
  exact Bool.false_ne_true hmark

end Marks

theorem filter_parts {q : Node → Bool} (hq : ∀ c : Node, c.isMark = true → q c = false) (n : Node) :
    n.parts.filter q = n.children.filter q := by
  rw [parts, List.filter_filter]
  refine List.filter_congr fun c _ => ?_
  cases hmark : c.isMark with
  | false => simp
  | true => simp [hq c hmark]

theorem child?_eq_find?_parts (n : Node) (f : String) : n.child? f = n.parts.find? (hasField f) := by
  have hfield : ∀ c : Node, c.isMark = true → hasField f c = false := by
    intro c hc
    rw [hasField, field_of_isMark hc]
    rfl
  rw [child?, ← List.head?_filter, ← List.head?_filter, filter_parts hfield]

/-- What holds of no nodes, and is kept by a node in front of both lists and by a mark in front of the
first one, holds of the children and the parts. -/
theorem parts_induction {P : List Node → List Node → Prop} (hnil : P [] [])
    (hkeep : ∀ c ns ms, P ns ms → P (c :: ns) (c :: ms))
    (hskip : ∀ c ns ms, c.isMark = true → P ns ms → P (c :: ns) ms) (n : Node) :
    P n.children n.parts := by
  rw [parts]
  induction n.children with
  | nil => exact hnil
  | cons c cs ih =>
      cases hmark : c.isMark with
      | false =>
          rw [List.filter_cons_of_pos (by simp [hmark])]
          exact hkeep c cs _ ih
      | true =>
          rw [List.filter_cons_of_neg (by simp [hmark])]
          exact hskip c cs _ hmark ih

theorem filter_walkAll_parts {cut p : Node → Bool} (hcut : Passes cut) (hp : Passes p) (n : Node) :
    (walkAll cut n.children).filter p = (walkAll cut n.parts).filter p := by
  refine parts_induction (P := fun ns ms => (walkAll cut ns).filter p = (walkAll cut ms).filter p)
    rfl (fun c ns ms ih => ?_) (fun c ns ms hmark ih => ?_) n
  · rw [walkAll, walkAll, List.filter_append, List.filter_append, ih]
  · rw [walkAll, List.filter_append,
      filter_walkBelow_scaffold hcut hp (isScaffold_of_isMark hmark), children_of_isMark hmark,
      walkAll, List.filter_nil, List.nil_append, ih]

/-! ## The parts of a statement -/

section IsWith

variable {isAsync : Bool} {items : List Node} {body w : Node}

theorem isScaffold_of_kind {n : Node} {kind : String} (hkind : n.kind = kind)
    (hpresent : n.label.isMissing = false) (h : scaffoldKinds.contains kind = true) :
    n.isScaffold = true := by
  rw [isScaffold, hpresent, hkind, h]
  rfl

theorem IsWith.isContent_body (h : IsWith isAsync items body w) : body.isContent = true := by
  rw [isContent, h.bodyNamed, h.bodyKind]
  rfl

theorem IsWith.child?_body (h : IsWith isAsync items body w) : w.child? "body" = some body := by
  obtain ⟨clause, hclause, hparts⟩ := h.parts
  have hfirst : ¬ hasField "body" clause = true := by
    rw [hasField, hclause.field]
    decide
  have hsecond : hasField "body" body = true := by
    rw [hasField, h.bodyField]
    decide
  rw [child?_eq_find?_parts, hparts, List.find?_cons_of_neg hfirst, List.find?_cons_of_pos hsecond]

theorem IsWith.isBodyOf (h : IsWith isAsync items body w) : body.isBodyOf w = true := by
  rw [Node.isBodyOf, h.child?_body, h.bodyKind]
  simp

theorem IsWith.walk (h : IsWith isAsync items body w) {cut p : Node → Bool} (hcut : Passes cut)
    (hp : Passes p) :
    (walkBelow cut w).filter p =
      (walkAll cut items).filter p ++ (walkBelow cut body).filter p := by
  obtain ⟨clause, hclause, hparts⟩ := h.parts
  rw [filter_walkBelow_scaffold hcut hp (isScaffold_of_kind h.kind h.present (by decide)),
    filter_walkAll_parts hcut hp, hparts, walkAll, walkAll, walkAll, List.append_nil,
    List.filter_append,
    filter_walkBelow_scaffold hcut hp (isScaffold_of_kind hclause.kind hclause.present (by decide)),
    filter_walkAll_parts hcut hp, hclause.parts]

theorem Nests.walk (h : Nests isAsync body items w) {cut p : Node → Bool} (hcut : Passes cut)
    (hp : Passes p) :
    (walkBelow cut w).filter p =
      (walkAll cut items).filter p ++ (walkBelow cut body).filter p := by
  induction h with
  | last h => exact h.walk hcut hp
  | cons h present children _ _ ih =>
      rw [h.walk hcut hp,
        filter_walkBelow_scaffold hcut hp (isScaffold_of_kind h.bodyKind present (by decide)),
        children, walkAll, walkAll, walkAll, walkAll, walkAll, List.append_nil, List.append_nil, ih,
        List.filter_append, List.append_assoc]

end IsWith

end SourceFacts.Node
