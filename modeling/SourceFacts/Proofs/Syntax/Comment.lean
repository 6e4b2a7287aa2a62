import Mathlib.Data.List.Basic
import Mathlib.Data.Option.Basic
import Mathlib.Logic.Relation
import SourceFacts.Client.Address
import SourceFacts.Decorator
import SourceFacts.Proofs.Syntax.Path
import SourceFacts.Symbol.Stub

/-!
# Comments

A tree without its comments: what is read off a tree is read off the tree without them too. Comments
in strings stay, where they are text.
-/

namespace SourceFacts

namespace Node

/-- The node is a comment: a leaf without a role and without marks. -/
def isRemark (n : Node) : Bool :=
  n.kind == "comment" && n.field.isNone && n.label.isNamed && !n.label.isMissing &&
    !n.label.hasError && n.children.isEmpty

/-- A comment with a span. -/
def remark (start stop : Nat) : Node := .node { kind := "comment", start, stop } []

mutual

/-- The tree without its comments. -/
def bare : Node → Node
  | .node l cs => .node l (bareAll (l.kind == "string") cs)

/-- Siblings without comments; those in a string stay. -/
def bareAll (inString : Bool) : List Node → List Node
  | [] => []
  | n :: ns =>
    if inString || !n.bare.isRemark then n.bare :: bareAll inString ns else bareAll inString ns

end

/-- A comment is added to a tree, as a child of a node that is not a string. -/
inductive AddsRemark : Node → Node → Prop where
  | here {l : Label} {before after : List Node} (start stop : Nat) (h : l.kind ≠ "string") :
      AddsRemark (.node l (before ++ after)) (.node l (before ++ remark start stop :: after))
  | inside {l : Label} {before after : List Node} {n n' : Node} (h : AddsRemark n n') :
      AddsRemark (.node l (before ++ n :: after)) (.node l (before ++ n' :: after))

/-- The second tree is the first one with further comments. -/
abbrev Commented : Node → Node → Prop := Relation.ReflTransGen AddsRemark

/-! ## Trees without comments -/

@[simp]
theorem label_bare (n : Node) : n.bare.label = n.label := by
  cases n with
  | node l cs => rw [bare, label_node, label_node]

theorem bareAll_eq_filter (inString : Bool) (ns : List Node) :
    bareAll inString ns = (ns.map bare).filter fun n => inString || !n.isRemark := by
  induction ns with
  | nil => rw [bareAll, List.map_nil, List.filter_nil]
  | cons n ns ih => rw [bareAll, List.map_cons, List.filter_cons, ih]

theorem bareAll_true (ns : List Node) : bareAll true ns = ns.map bare := by
  simp [bareAll_eq_filter]

theorem bare_of_addsRemark {n n' : Node} (h : AddsRemark n n') : n.bare = n'.bare := by
  induction h with
  | @here l before after start stop hl =>
      have hremark : (remark start stop).bare.isRemark = true := rfl
      have hstring : (l.kind == "string") = false := by simpa using hl
      simp [bare, bareAll_eq_filter, hstring, hremark]
  | inside _ ih => simp [bare, bareAll_eq_filter, ih]

theorem bare_of_commented {n n' : Node} (h : Commented n n') : n.bare = n'.bare := by
  induction h with
  | refl => rfl
  | tail _ hlast ih => exact ih.trans (bare_of_addsRemark hlast)

section Label

variable (n : Node)

@[simp]
theorem kind_bare : n.bare.kind = n.kind := congrArg Label.kind n.label_bare

@[simp]
theorem start_bare : n.bare.start = n.start := congrArg Label.start n.label_bare

@[simp]
theorem stop_bare : n.bare.stop = n.stop := congrArg Label.stop n.label_bare

@[simp]
theorem field_bare : n.bare.field = n.field := congrArg Label.field n.label_bare

@[simp]
theorem isContent_bare : n.bare.isContent = n.isContent := by
  rw [isContent, isContent, label_bare, kind_bare]

@[simp]
theorem hasField_bare (f : String) : hasField f n.bare = hasField f n := by
  rw [hasField, hasField, field_bare]

@[simp]
theorem isDefinition_bare : n.bare.isDefinition = n.isDefinition := by
  rw [isDefinition, isDefinition, kind_bare]

theorem children_bare : n.bare.children = bareAll (n.kind == "string") n.children := by
  cases n with
  | node l cs => rfl

end Label

/-- A comment that is removed has no role and no mark, and nothing but comments inside. -/
theorem of_isRemark_bare {n : Node} (h : n.bare.isRemark = true) :
    n.kind = "comment" ∧ n.field = none ∧ n.label.isMissing = false ∧
      bareAll false n.children = [] := by
  simp only [isRemark, Bool.and_eq_true, beq_iff_eq, Option.isNone_iff_eq_none, kind_bare,
    field_bare, label_bare, children_bare, List.isEmpty_iff, Bool.not_eq_eq_eq_not,
    Bool.not_true] at h
  obtain ⟨⟨⟨⟨⟨hkind, hfield⟩, -⟩, hmissing⟩, -⟩, hchildren⟩ := h
  rw [hkind] at hchildren
  exact ⟨hkind, hfield, hmissing, hchildren⟩

/-- The test does not see comments: it asks for the label alone, and none that is removed passes. -/
structure Overlooks (p : Node → Bool) : Prop where
  label : ∀ n, p n.bare = p n
  remark : ∀ n, n.bare.isRemark = true → p n = false

theorem overlooks_isContent : Overlooks isContent where
  label := isContent_bare
  remark := fun n h => by simp [isContent, (of_isRemark_bare h).1]

theorem overlooks_hasField (f : String) : Overlooks (hasField f) where
  label := fun n => n.hasField_bare f
  remark := fun n h => by simp [hasField, (of_isRemark_bare h).2.1]

theorem overlooks_kind {kind : String} (h : kind ≠ "comment") :
    Overlooks fun n => n.kind == kind where
  label := fun n => by rw [kind_bare]
  remark := fun n hn => by simp [(of_isRemark_bare hn).1, h.symm]

section Overlooks

variable {p : Node → Bool}

/-- The first of some siblings stays, or else it is a comment that the test does not see. -/
theorem Overlooks.bareAll_cons (hp : Overlooks p) {β : Type} {f : List Node → β} {b : β}
    {inString : Bool} {n : Node} {ns : List Node} (hkeep : f (n.bare :: bareAll inString ns) = b)
    (hskip : p n = false → f (bareAll inString ns) = b) : f (bareAll inString (n :: ns)) = b := by
  rw [bareAll]
  split
  · exact hkeep
  · rename_i hremark
    exact hskip (hp.remark n (by simp_all))

theorem Overlooks.filter_bareAll (hp : Overlooks p) (inString : Bool) (ns : List Node) :
    (bareAll inString ns).filter p = (ns.filter p).map bare := by
  induction ns with
  | nil => rfl
  | cons n ns ih =>
      refine hp.bareAll_cons ?_ fun hskip => ?_
      · rw [List.filter_cons, hp.label, List.filter_cons, ih]
        split <;> rfl
      · rw [ih, List.filter_cons_of_neg (by simp [hskip])]

theorem Overlooks.find?_bareAll (hp : Overlooks p) (inString : Bool) (ns : List Node) :
    (bareAll inString ns).find? p = (ns.find? p).map bare := by
  rw [← List.head?_filter, ← List.head?_filter, hp.filter_bareAll, List.head?_map]

theorem Overlooks.any_bareAll (hp : Overlooks p) (inString : Bool) (ns : List Node) :
    (bareAll inString ns).any p = ns.any p := by
  rw [Bool.eq_iff_iff, List.any_eq_true, List.any_eq_true, ← List.find?_isSome, ← List.find?_isSome,
    hp.find?_bareAll, Option.isSome_map]

end Overlooks

@[simp]
theorem contents_bare (n : Node) : n.bare.contents = n.contents.map bare := by
  rw [contents, children_bare, overlooks_isContent.filter_bareAll, contents]

@[simp]
theorem child?_bare (n : Node) (f : String) : n.bare.child? f = (n.child? f).map bare := by
  rw [child?, children_bare, (overlooks_hasField f).find?_bareAll, child?]

@[simp]
theorem childrenWith_bare (n : Node) (f : String) :
    n.bare.childrenWith f = (n.childrenWith f).map bare := by
  rw [childrenWith, children_bare, (overlooks_hasField f).filter_bareAll, childrenWith]

theorem hasChild_bare (n : Node) {kind : String} (h : kind ≠ "comment") :
    n.bare.hasChild kind = n.hasChild kind := by
  rw [hasChild, children_bare, (overlooks_kind h).any_bareAll, hasChild]

end Node

namespace Source

@[simp]
theorem text_bare (src : Source) (n : Node) : src.text n.bare = src.text n := by
  rw [text, text, Node.start_bare, Node.stop_bare]

@[simp]
theorem textOf_map_bare (src : Source) (n : Option Node) :
    src.textOf (n.map Node.bare) = src.textOf n := by
  cases n with
  | none => rfl
  | some n => exact src.text_bare n

@[simp]
theorem line_bare (src : Source) (n : Node) : src.line n.bare = src.line n := by
  rw [line, line, Node.start_bare]

@[simp]
theorem endLine_bare (src : Source) (n : Node) : src.endLine n.bare = src.endLine n := by
  rw [endLine, endLine, Node.stop_bare]

@[simp]
theorem column_bare (src : Source) (n : Node) : src.column n.bare = src.column n := by
  rw [column, column, Node.start_bare]

end Source

/-! ## Names and texts -/

section Expressions

variable (src : Source)

mutual

@[simp]
theorem dottedName?_bare : (n : Node) → dottedName? src n.bare = dottedName? src n
  | .node l cs => by
      have htext : src.text (.node l (Node.bareAll (l.kind == "string") cs)) =
          src.text (.node l cs) := rfl
      rw [Node.bare, dottedName?, dottedName?, objectName?_bareAll, htext,
        (Node.overlooks_hasField _).find?_bareAll]
      cases objectName? src cs <;> cases cs.find? (Node.hasField "attribute") <;> simp

theorem objectName?_bareAll (inString : Bool) :
    (ns : List Node) → objectName? src (Node.bareAll inString ns) = objectName? src ns
  | [] => rfl
  | n :: ns => by
      have ih := objectName?_bareAll inString ns
      refine (Node.overlooks_hasField "object").bareAll_cons ?_ fun hskip => ?_
      · rw [objectName?, objectName?, Node.hasField_bare, dottedName?_bare n, ih]
      · rw [objectName?, hskip, ih]
        rfl

end

theorem StringParts.ofChildren?_map_bare (cs : List Node) :
    StringParts.ofChildren? src (cs.map Node.bare) = StringParts.ofChildren? src cs := by
  unfold StringParts.ofChildren?
  have hopening : ((cs.map Node.bare).filter fun c => c.kind == "string_start").getLast? =
      ((cs.filter fun c => c.kind == "string_start").getLast?).map Node.bare := by
    rw [List.filter_map, List.getLast?_map]
    simp [Function.comp_def]
  have hpieces : ((cs.map Node.bare).filter fun c =>
      c.kind != "string_start" && c.kind != "string_end").map src.text =
        (cs.filter fun c => c.kind != "string_start" && c.kind != "string_end").map src.text := by
    rw [List.filter_map, List.map_map]
    simp [Function.comp_def]
  dsimp only
  rw [hopening, hpieces, List.any_map]
  cases (cs.filter fun c => c.kind == "string_start").getLast? <;> simp [Function.comp_def]

mutual

@[simp]
theorem stringText?_bare : (n : Node) → stringText? src n.bare = stringText? src n
  | .node l cs => by
      rw [Node.bare, stringText?, stringText?, joinedText?_bareAll, innerText?_bareAll,
        Node.overlooks_isContent.filter_bareAll, List.length_map]
      split
      · rename_i hkind
        have hparts : (Node.node l (Node.bareAll (l.kind == "string") cs)).stringParts src =
            (Node.node l cs).stringParts src := by
          rw [hkind, Node.stringParts, Node.stringParts, Node.children_node, Node.children_node,
            Node.bareAll_true, StringParts.ofChildren?_map_bare]
          rfl
        rw [hparts]
      · rfl

theorem joinedText?_bareAll (inString : Bool) :
    (ns : List Node) → joinedText? src (Node.bareAll inString ns) = joinedText? src ns
  | [] => rfl
  | n :: ns => by
      have ih := joinedText?_bareAll inString ns
      refine Node.overlooks_isContent.bareAll_cons ?_ fun hskip => ?_
      · rw [joinedText?, joinedText?, Node.isContent_bare, stringText?_bare n, ih]
      · rw [joinedText?, hskip, ih]
        rfl

theorem innerText?_bareAll (inString : Bool) :
    (ns : List Node) → innerText? src (Node.bareAll inString ns) = innerText? src ns
  | [] => rfl
  | n :: ns => by
      have ih := innerText?_bareAll inString ns
      refine Node.overlooks_isContent.bareAll_cons ?_ fun hskip => ?_
      · rw [innerText?, innerText?, Node.isContent_bare, stringText?_bare n, ih]
      · rw [innerText?, hskip, ih]
        rfl

end

mutual

@[simp]
theorem literal?_bare : (n : Node) → literal? src n.bare = literal? src n
  | .node l cs => by
      have htext : src.text (.node l (Node.bareAll (l.kind == "string") cs)) =
          src.text (.node l cs) := rfl
      have hstring := stringText?_bare src (.node l cs)
      rw [Node.bare] at hstring
      rw [Node.bare, literal?, literal?, literals?_bareAll, innerLiteral?_bareAll, htext, hstring,
        Node.overlooks_isContent.filter_bareAll, List.length_map]

theorem literals?_bareAll (inString : Bool) :
    (ns : List Node) → literals? src (Node.bareAll inString ns) = literals? src ns
  | [] => rfl
  | n :: ns => by
      have ih := literals?_bareAll inString ns
      refine Node.overlooks_isContent.bareAll_cons ?_ fun hskip => ?_
      · rw [literals?, literals?, Node.isContent_bare, literal?_bare n, ih]
      · rw [literals?, hskip, ih]
        rfl

theorem innerLiteral?_bareAll (inString : Bool) :
    (ns : List Node) → innerLiteral? src (Node.bareAll inString ns) = innerLiteral? src ns
  | [] => rfl
  | n :: ns => by
      have ih := innerLiteral?_bareAll inString ns
      refine Node.overlooks_isContent.bareAll_cons ?_ fun hskip => ?_
      · rw [innerLiteral?, innerLiteral?, Node.isContent_bare, literal?_bare n, ih]
      · rw [innerLiteral?, hskip, ih]
        rfl

end

/-! ## Addresses -/

namespace Node

@[simp]
theorem formatText?_bare (n : Node) : n.bare.formatText? src = n.formatText? src := by
  unfold formatText?
  rw [kind_bare, child?_bare]
  cases n.child? "function" with
  | none => rfl
  | some function =>
      simp only [Option.map_some, Option.bind_eq_bind, Option.bind_some, kind_bare, child?_bare,
        Source.textOf_map_bare, Option.bind_map, Function.comp_def, stringText?_bare]

@[simp]
theorem isSum_bare (n : Node) : n.bare.isSum src = n.isSum src := by
  simp [isSum, Option.any_map]

end Node

mutual

@[simp]
theorem addressText?_bare : (n : Node) → addressText? src n.bare = addressText? src n
  | .node l cs => by
      have hstring := stringText?_bare src (.node l cs)
      have hformat := Node.formatText?_bare src (.node l cs)
      have hsum := Node.isSum_bare src (.node l cs)
      rw [Node.bare] at hstring hformat hsum
      rw [Node.bare, addressText?, addressText?, sumText?_bareAll, hstring, hformat, hsum]

theorem sumText?_bareAll (inString : Bool) :
    (ns : List Node) → sumText? src (Node.bareAll inString ns) = sumText? src ns
  | [] => rfl
  | n :: ns => by
      have ih := sumText?_bareAll inString ns
      refine Node.overlooks_isContent.bareAll_cons ?_ fun hskip => ?_
      · rw [sumText?, sumText?, Node.isContent_bare, addressText?_bare n, ih]
      · rw [sumText?, hskip, ih]
        rfl

end

theorem addressPath_map_bare (n : Option Node) :
    addressPath src (n.map Node.bare) = addressPath src n := by
  simp [addressPath, Option.bind_map]

end Expressions

/-! ## Walks -/

namespace Node

section Walk

variable {p cut : Node → Bool}

mutual

/-- In a comment there are only comments. -/
theorem Overlooks.filter_walkBelow_remark (hp : Overlooks p) (cut : Node → Bool) :
    (n : Node) → n.bare.isRemark = true → (walkBelow cut n).filter p = []
  | .node l cs, h => by
      have hchildren : bareAll false cs = [] := (of_isRemark_bare h).2.2.2
      rw [walkBelow, List.filter_cons, if_neg (by simp [hp.remark _ h])]
      split
      · rfl
      · exact Overlooks.filter_walkAll_remarks hp cut cs hchildren

theorem Overlooks.filter_walkAll_remarks (hp : Overlooks p) (cut : Node → Bool) :
    (ns : List Node) → bareAll false ns = [] → (walkAll cut ns).filter p = []
  | [], _ => rfl
  | n :: ns, h => by
      rw [bareAll] at h
      split at h
      · cases h
      · rename_i hremark
        rw [walkAll, List.filter_append, Overlooks.filter_walkBelow_remark hp cut n (by simp_all),
          Overlooks.filter_walkAll_remarks hp cut ns h, List.append_nil]

end

mutual

theorem Overlooks.filter_walkBelow (hp : Overlooks p) (hcut : ∀ n, cut n.bare = cut n) :
    (n : Node) → (walkBelow cut n.bare).filter p = ((walkBelow cut n).filter p).map bare
  | .node l cs => by
      have hroot := hcut (.node l cs)
      have hsees := hp.label (.node l cs)
      rw [bare] at hroot hsees ⊢
      have hbelow : (if cut (.node l cs) then [] else
          walkAll cut (bareAll (l.kind == "string") cs)).filter p =
            ((if cut (.node l cs) then [] else walkAll cut cs).filter p).map bare := by
        split
        · rfl
        · exact Overlooks.filter_walkAll hp hcut _ cs
      rw [walkBelow, walkBelow, List.filter_cons, List.filter_cons, hroot, hsees, hbelow]
      split
      · rw [List.map_cons, bare]
      · rfl

theorem Overlooks.filter_walkAll (hp : Overlooks p) (hcut : ∀ n, cut n.bare = cut n)
    (inString : Bool) :
    (ns : List Node) →
      (walkAll cut (bareAll inString ns)).filter p = ((walkAll cut ns).filter p).map bare
  | [] => rfl
  | n :: ns => by
      have ih := Overlooks.filter_walkAll hp hcut inString ns
      rw [bareAll, walkAll, List.filter_append, List.map_append]
      split
      · rw [walkAll, List.filter_append, ih, Overlooks.filter_walkBelow hp hcut n]
      · rename_i hremark
        -- The walk goes into the comment, which may hold further ones.
        rw [ih, hp.filter_walkBelow_remark cut n (by simp_all)]
        rfl

end

theorem Overlooks.filter_walk (hp : Overlooks p) (hcut : ∀ n, cut n.bare = cut n) (n : Node) :
    (n.bare.walk cut).filter p = ((n.walk cut).filter p).map bare := by
  rw [walk, walk, List.filter_cons, List.filter_cons, hp.label, children_bare,
    hp.filter_walkAll hcut]
  split <;> rfl

/-- What is read off the nodes of a walk, apart from comments. -/
theorem filterMap_walk_bare {β : Type} {g : Node → Option β} (hg : ∀ n, g n.bare = g n)
    (hremark : ∀ n, n.bare.isRemark = true → g n = none) (hcut : ∀ n, cut n.bare = cut n)
    (n : Node) : (n.bare.walk cut).filterMap g = (n.walk cut).filterMap g := by
  have hp : Overlooks fun n => (g n).isSome :=
    ⟨fun n => by rw [hg], fun n h => by rw [hremark n h]; rfl⟩
  have hfilter : ∀ l : List Node, l.filterMap g = (l.filter fun n => (g n).isSome).filterMap g := by
    intro l
    rw [List.filterMap_filter]
    refine List.filterMap_congr fun n _ => ?_
    cases g n <;> rfl
  rw [hfilter, hp.filter_walk hcut, List.filterMap_map, hfilter (n.walk cut)]
  exact List.filterMap_congr fun n _ => hg n

end Walk

end Node

/-! ## Statements -/

namespace Node

variable (src : Source) (n : Node)

@[simp]
theorem isStringLiteral_bare : n.bare.isStringLiteral = n.isStringLiteral := by
  rw [isStringLiteral, isStringLiteral, kind_bare]

@[simp]
theorem soleExpression?_bare : n.bare.soleExpression? = n.soleExpression?.map bare := by
  unfold soleExpression?
  rw [kind_bare, contents_bare]
  split
  · match n.contents with
    | [] => rfl
    | [_] => rfl
    | _ :: _ :: _ => rfl
  · rfl

@[simp]
theorem isStringStatement_bare : n.bare.isStringStatement = n.isStringStatement := by
  simp [isStringStatement, Option.any_map]

@[simp]
theorem isEllipsisStatement_bare : n.bare.isEllipsisStatement = n.isEllipsisStatement := by
  simp [isEllipsisStatement, Option.any_map]

@[simp]
theorem isAnnotationOnly_bare : n.bare.isAnnotationOnly = n.isAnnotationOnly := by
  simp [isAnnotationOnly, Option.any_map]

@[simp]
theorem docstring?_bare : n.bare.docstring? src = n.docstring? src := by
  unfold docstring?
  rw [contents_bare, List.head?_map]
  cases n.contents.head? with
  | none => rfl
  | some first =>
      simp only [Option.map_some, Option.bind_eq_bind, Option.bind_some, soleExpression?_bare,
        Option.bind_map, Function.comp_def, isStringLiteral_bare, stringText?_bare]

@[simp]
theorem raisedName?_bare : n.bare.raisedName? src = n.raisedName? src := by
  simp [raisedName?, Function.comp_def]

@[simp]
theorem isStubStatement_bare : n.bare.isStubStatement src = n.isStubStatement src := by
  simp [isStubStatement]

@[simp]
theorem isStubBody_bare : n.bare.isStubBody src = n.isStubBody src := by
  simp [isStubBody, Function.comp_def]

@[simp]
theorem isDeclaration_bare : n.bare.isDeclaration = n.isDeclaration := by
  simp [isDeclaration, Option.any_map]

@[simp]
theorem isDeclarativeBody_bare : n.bare.isDeclarativeBody = n.isDeclarativeBody := by
  simp [isDeclarativeBody, Function.comp_def]

/-! ## Calls and decorators -/

@[simp]
theorem callee?_bare : n.bare.callee? src = n.callee? src := by
  simp [callee?, Option.bind_map]

@[simp]
theorem isSplat_bare : n.bare.isSplat = n.isSplat := by
  rw [isSplat, isSplat, kind_bare]

@[simp]
theorem argument_bare : n.bare.argument src = n.argument src := by
  simp [argument, Option.bind_map]

theorem arguments_map_bare (list : Option Node) :
    arguments src (list.map bare) = arguments src list := by
  cases list with
  | none => rfl
  | some list => simp [arguments, Function.comp_def]

@[simp]
theorem decorator?_bare : n.bare.decorator? src = n.decorator? src := by
  simp [decorator?, Function.comp_def, arguments_map_bare]

@[simp]
theorem decorators_bare : n.bare.decorators src = n.decorators src := by
  have hkind : Overlooks fun c => c.kind == "decorator" := overlooks_kind (by decide)
  rw [decorators, decorators, children_bare, hkind.filter_bareAll, List.filterMap_map]
  simp

end Node

end SourceFacts
