import Mathlib.Data.List.Basic
import Mathlib.Data.Option.Basic
import SourceFacts.Call.Extraction
import SourceFacts.Client.Detection
import SourceFacts.Endpoint.Mount
import SourceFacts.Import.Statement
import SourceFacts.Proofs.Dictionary
import SourceFacts.Symbol.Table

/-!
# Outlines

The outline of a tree leaves out what stands in modules, blocks and `with` statements. Names, strings,
literals, arguments, decorators and import statements are read off the outline.
-/

namespace SourceFacts

namespace Node

/-- What nodes of the kind hold is no part of an expression. -/
def isOpaque (kind : String) : Bool :=
  kind == "module" || kind == "block" || kind == "with_statement"

mutual

/-- The tree without what stands in nodes that are no part of an expression. -/
def outline : Node → Node
  | .node l cs => .node l (if isOpaque l.kind then [] else outlines cs)

/-- The outlines of some siblings. -/
def outlines : List Node → List Node
  | [] => []
  | n :: ns => n.outline :: outlines ns

end

theorem outlines_eq_map (ns : List Node) : outlines ns = ns.map outline := by
  induction ns with
  | nil => rfl
  | cons n ns ih => rw [outlines, ih, List.map_cons]

@[simp]
theorem label_outline (n : Node) : n.outline.label = n.label := by
  cases n with
  | node l cs => rw [outline, label_node, label_node]

section Label

variable (n : Node)

@[simp]
theorem kind_outline : n.outline.kind = n.kind := congrArg Label.kind n.label_outline

@[simp]
theorem start_outline : n.outline.start = n.start := congrArg Label.start n.label_outline

@[simp]
theorem stop_outline : n.outline.stop = n.stop := congrArg Label.stop n.label_outline

@[simp]
theorem field_outline : n.outline.field = n.field := congrArg Label.field n.label_outline

@[simp]
theorem isContent_outline : n.outline.isContent = n.isContent := by
  rw [isContent, isContent, label_outline, kind_outline]

@[simp]
theorem hasField_outline (f : String) : hasField f n.outline = hasField f n := by
  rw [hasField, hasField, field_outline]

@[simp]
theorem isSplat_outline : n.outline.isSplat = n.isSplat := by
  rw [isSplat, isSplat, kind_outline]

end Label

theorem kind_ne_of_isOpaque {kind : String} (h : isOpaque kind = true) (other : String)
    (hother : isOpaque other = false) : (kind == other) = false := by
  rw [beq_eq_false_iff_ne]
  rintro rfl
  exact absurd (h.symm.trans hother) (by decide)

theorem isOpaque_of_kind {n : Node} {kind : String} (h : (n.kind == kind) = true)
    (hkind : isOpaque kind = false) : isOpaque n.kind = false := by
  rw [beq_iff_eq.mp h]
  exact hkind

/-! ## Children -/

theorem children_outline {n : Node} (h : isOpaque n.kind = false) :
    n.outline.children = n.children.map outline := by
  cases n with
  | node l cs =>
      have hkind : isOpaque l.kind = false := h
      rw [outline, hkind, children_node, children_node, ← outlines_eq_map]
      rfl

theorem filter_map_outline {p : Node → Bool} (hp : ∀ n, p n.outline = p n) (ns : List Node) :
    (ns.map outline).filter p = (ns.filter p).map outline := by
  rw [List.filter_map]
  exact congrArg _ (List.filter_congr fun n _ => hp n)

theorem find?_map_outline {p : Node → Bool} (hp : ∀ n, p n.outline = p n) (ns : List Node) :
    (ns.map outline).find? p = (ns.find? p).map outline := by
  rw [← List.head?_filter, ← List.head?_filter, filter_map_outline hp, List.head?_map]

theorem contents_outline {n : Node} (h : isOpaque n.kind = false) :
    n.outline.contents = n.contents.map outline := by
  rw [contents, children_outline h, filter_map_outline isContent_outline, contents]

theorem child?_outline {n : Node} (h : isOpaque n.kind = false) (f : String) :
    n.outline.child? f = (n.child? f).map outline := by
  rw [child?, children_outline h, find?_map_outline fun c => c.hasField_outline f, child?]

theorem childrenWith_outline {n : Node} (h : isOpaque n.kind = false) (f : String) :
    n.outline.childrenWith f = (n.childrenWith f).map outline := by
  rw [childrenWith, children_outline h, filter_map_outline fun c => c.hasField_outline f,
    childrenWith]

theorem hasChild_outline {n : Node} (h : isOpaque n.kind = false) (kind : String) :
    n.outline.hasChild kind = n.hasChild kind := by
  rw [hasChild, children_outline h, List.any_map]
  exact congrArg n.children.any (funext fun c => by rw [Function.comp_apply, kind_outline])

end Node

namespace Source

variable (src : Source) (n : Node)

@[simp]
theorem text_outline : src.text n.outline = src.text n := by
  rw [text, text, Node.start_outline, Node.stop_outline]

@[simp]
theorem textOf_map_outline (n : Option Node) : src.textOf (n.map Node.outline) = src.textOf n := by
  cases n with
  | none => rfl
  | some n => exact src.text_outline n

@[simp]
theorem line_outline : src.line n.outline = src.line n := by
  rw [line, line, Node.start_outline]

@[simp]
theorem column_outline : src.column n.outline = src.column n := by
  rw [column, column, Node.start_outline]

end Source

/-! ## Names and texts -/

section Expressions

variable (src : Source)

mutual

@[simp]
theorem dottedName?_outline : (n : Node) → dottedName? src n.outline = dottedName? src n
  | .node l cs => by
      have htext := src.text_outline (.node l cs)
      rw [Node.outline] at htext ⊢
      rw [dottedName?, dottedName?, htext]
      cases hopaque : Node.isOpaque l.kind with
      | true => rw [Node.kind_ne_of_isOpaque hopaque "attribute" (by decide)]; rfl
      | false =>
          rw [if_neg Bool.false_ne_true, objectName?_outlines cs, Node.outlines_eq_map,
            Node.find?_map_outline fun c => c.hasField_outline _]
          cases objectName? src cs <;> cases cs.find? (Node.hasField "attribute") <;> simp

theorem objectName?_outlines :
    (ns : List Node) → objectName? src (Node.outlines ns) = objectName? src ns
  | [] => rfl
  | n :: ns => by
      rw [Node.outlines, objectName?, objectName?, Node.hasField_outline, dottedName?_outline n,
        objectName?_outlines ns]

end

theorem StringParts.ofChildren?_map_outline (cs : List Node) :
    StringParts.ofChildren? src (cs.map Node.outline) = StringParts.ofChildren? src cs := by
  have hopening := Node.filter_map_outline (p := fun c => c.kind == "string_start")
    (fun c => by rw [Node.kind_outline]) cs
  have hpieces := Node.filter_map_outline
    (p := fun c => c.kind != "string_start" && c.kind != "string_end")
    (fun c => by rw [Node.kind_outline]) cs
  unfold StringParts.ofChildren?
  dsimp only
  rw [hopening, hpieces, List.getLast?_map, List.map_map, List.any_map]
  cases (cs.filter fun c => c.kind == "string_start").getLast? <;> simp [Function.comp_def]

theorem Node.length_contents_outlines (cs : List Node) :
    ((Node.outlines cs).filter Node.isContent).length = (cs.filter Node.isContent).length := by
  rw [Node.outlines_eq_map, Node.filter_map_outline Node.isContent_outline, List.length_map]

mutual

@[simp]
theorem stringText?_outline : (n : Node) → stringText? src n.outline = stringText? src n
  | .node l cs => by
      rw [Node.outline, stringText?, stringText?]
      cases hopaque : Node.isOpaque l.kind with
      | true =>
          rw [Node.kind_ne_of_isOpaque hopaque "string" (by decide),
            Node.kind_ne_of_isOpaque hopaque "concatenated_string" (by decide),
            Node.kind_ne_of_isOpaque hopaque "parenthesized_expression" (by decide)]
          simp only [Bool.false_eq_true, if_false]
      | false =>
          have hparts : (Node.node l (Node.outlines cs)).stringParts src =
              (Node.node l cs).stringParts src := by
            rw [Node.stringParts, Node.stringParts, Node.children_node, Node.children_node,
              Node.outlines_eq_map, StringParts.ofChildren?_map_outline]
            rfl
          rw [if_neg Bool.false_ne_true, hparts, joinedText?_outlines cs, innerText?_outlines cs,
            Node.length_contents_outlines]

theorem joinedText?_outlines :
    (ns : List Node) → joinedText? src (Node.outlines ns) = joinedText? src ns
  | [] => rfl
  | n :: ns => by
      rw [Node.outlines, joinedText?, joinedText?, Node.isContent_outline, stringText?_outline n,
        joinedText?_outlines ns]

theorem innerText?_outlines :
    (ns : List Node) → innerText? src (Node.outlines ns) = innerText? src ns
  | [] => rfl
  | n :: ns => by
      rw [Node.outlines, innerText?, innerText?, Node.isContent_outline, stringText?_outline n,
        innerText?_outlines ns]

end

mutual

@[simp]
theorem literal?_outline : (n : Node) → literal? src n.outline = literal? src n
  | .node l cs => by
      have htext := src.text_outline (.node l cs)
      have hstring := stringText?_outline src (.node l cs)
      rw [Node.outline] at htext hstring ⊢
      rw [literal?, literal?, htext, hstring]
      cases hopaque : Node.isOpaque l.kind with
      | true =>
          rw [Node.kind_ne_of_isOpaque hopaque "list" (by decide),
            Node.kind_ne_of_isOpaque hopaque "tuple" (by decide),
            Node.kind_ne_of_isOpaque hopaque "set" (by decide),
            Node.kind_ne_of_isOpaque hopaque "parenthesized_expression" (by decide)]
          rfl
      | false =>
          rw [if_neg Bool.false_ne_true, literals?_outlines cs, innerLiteral?_outlines cs,
            Node.length_contents_outlines]

theorem literals?_outlines :
    (ns : List Node) → literals? src (Node.outlines ns) = literals? src ns
  | [] => rfl
  | n :: ns => by
      rw [Node.outlines, literals?, literals?, Node.isContent_outline, literal?_outline n,
        literals?_outlines ns]

theorem innerLiteral?_outlines :
    (ns : List Node) → innerLiteral? src (Node.outlines ns) = innerLiteral? src ns
  | [] => rfl
  | n :: ns => by
      rw [Node.outlines, innerLiteral?, innerLiteral?, Node.isContent_outline, literal?_outline n,
        innerLiteral?_outlines ns]

end

/-! ## Addresses -/

namespace Node

theorem formatText?_outline (n : Node) : n.outline.formatText? src = n.formatText? src := by
  unfold formatText?
  rw [kind_outline]
  cases hcall : n.kind == "call" with
  | false => rfl
  | true =>
      rw [child?_outline (isOpaque_of_kind hcall (by decide))]
      cases n.child? "function" with
      | none => rfl
      | some function =>
          simp only [Option.map_some, Option.bind_eq_bind, Option.bind_some, kind_outline]
          cases hattribute : function.kind == "attribute" with
          | false => rfl
          | true =>
              have hopaque := isOpaque_of_kind hattribute (by decide)
              simp only [child?_outline hopaque, Source.textOf_map_outline, Option.bind_map,
                Function.comp_def, stringText?_outline]

theorem isSum_outline (n : Node) : n.outline.isSum src = n.isSum src := by
  unfold isSum
  rw [kind_outline]
  cases hkind : n.kind == "binary_operator" with
  | false => rfl
  | true =>
      have hopaque := isOpaque_of_kind hkind (by decide)
      simp [contents_outline hopaque, child?_outline hopaque, Option.any_map]

end Node

mutual

@[simp]
theorem addressText?_outline : (n : Node) → addressText? src n.outline = addressText? src n
  | .node l cs => by
      have hstring := stringText?_outline src (.node l cs)
      have hformat := Node.formatText?_outline src (.node l cs)
      have hsum := Node.isSum_outline src (.node l cs)
      rw [Node.outline] at hstring hformat hsum ⊢
      rw [addressText?, addressText?, hstring, hformat, hsum]
      cases hopaque : Node.isOpaque l.kind with
      | true =>
          have hnone : Node.isSum src (.node l cs) = false := by
            rw [Node.isSum, Node.kind, Node.label_node,
              Node.kind_ne_of_isOpaque hopaque "binary_operator" (by decide)]
            rfl
          rw [hnone]
          rfl
      | false => rw [if_neg Bool.false_ne_true, sumText?_outlines cs]

theorem sumText?_outlines : (ns : List Node) → sumText? src (Node.outlines ns) = sumText? src ns
  | [] => rfl
  | n :: ns => by
      rw [Node.outlines, sumText?, sumText?, Node.isContent_outline, addressText?_outline n,
        sumText?_outlines ns]

end

theorem addressPath_map_outline (n : Option Node) :
    addressPath src (n.map Node.outline) = addressPath src n := by
  simp [addressPath, Option.bind_map]

/-! ## Calls and decorators -/

namespace Node

theorem callee?_outline {n : Node} (h : isOpaque n.kind = false) :
    n.outline.callee? src = n.callee? src := by
  simp [callee?, child?_outline h, Option.bind_map]

@[simp]
theorem argument_outline (n : Node) : n.outline.argument src = n.argument src := by
  unfold argument
  rw [kind_outline]
  cases hkind : n.kind == "keyword_argument" with
  | false => simp
  | true => simp [child?_outline (isOpaque_of_kind hkind (by decide)), Option.bind_map]

theorem arguments_map_outline (list : Option Node) :
    arguments src (list.map outline) = arguments src list := by
  cases list with
  | none => rfl
  | some list =>
      simp only [arguments, Option.map_some, kind_outline]
      split
      · rename_i hkind
        simp [contents_outline (isOpaque_of_kind hkind (by decide)), Function.comp_def]
      · rfl

theorem decorator?_outline {n : Node} (h : isOpaque n.kind = false) :
    n.outline.decorator? src = n.decorator? src := by
  unfold decorator?
  rw [contents_outline h, List.head?_map, Option.map_map]
  refine congrArg (n.contents.head?.map ·) (funext fun e => ?_)
  simp only [Function.comp_apply, kind_outline, Source.text_outline, Source.line_outline,
    dottedName?_outline]
  split
  · rename_i hcall
    have hopaque := isOpaque_of_kind hcall (by decide)
    rw [callee?_outline src hopaque, child?_outline hopaque, arguments_map_outline]
  · rfl

theorem decorators_outline {n : Node} (h : isOpaque n.kind = false) :
    n.outline.decorators src = n.decorators src := by
  rw [decorators, decorators, children_outline h,
    filter_map_outline (p := fun c => c.kind == "decorator") fun c => by rw [kind_outline],
    List.filterMap_map]
  refine List.filterMap_congr fun c hc => ?_
  exact decorator?_outline src (isOpaque_of_kind (List.mem_filter.mp hc).2 (by decide))

@[simp]
theorem parameterName?_outline (n : Node) : n.outline.parameterName? src = n.parameterName? src := by
  unfold parameterName?
  rw [kind_outline, Source.text_outline]
  cases hopaque : isOpaque n.kind with
  | true =>
      simp only [kind_ne_of_isOpaque hopaque "default_parameter" (by decide),
        kind_ne_of_isOpaque hopaque "typed_default_parameter" (by decide),
        kind_ne_of_isOpaque hopaque "typed_parameter" (by decide)]
      rfl
  | false => simp [child?_outline hopaque, contents_outline hopaque, Function.comp_def]

end Node

/-! ## Import statements -/

namespace ImportReading

variable (file : String)

theorem binding?_outline (line : Coordinate) (module : Option String) (n : Node) :
    binding? src line module n.outline = binding? src line module n := by
  unfold binding?
  rw [Node.kind_outline, Source.text_outline]
  cases hkind : n.kind == "aliased_import" with
  | false => rfl
  | true => simp [alias?, Node.child?_outline (Node.isOpaque_of_kind hkind (by decide))]

theorem ofStatement_outline {n : Node} (h : n.isImport = true) :
    ofStatement src file n.outline = ofStatement src file n := by
  have hopaque : Node.isOpaque n.kind = false := by
    rcases Bool.or_eq_true_iff.mp h with h | h
    · exact Node.isOpaque_of_kind h (by decide)
    · exact Node.isOpaque_of_kind h (by decide)
  have hnames : ∀ module empty, ofNames src file n.outline module empty =
      ofNames src file n module empty := by
    intro module empty
    simp [ofNames, problem, Node.childrenWith_outline hopaque, Function.comp_def, binding?_outline]
  unfold ofStatement
  rw [Node.label_outline, Node.kind_outline, Node.child?_outline hopaque, hnames,
    Node.hasChild_outline hopaque]
  cases n.child? "module_name" with
  | none => simp [problem]
  | some moduleNode => simp [problem, hnames]

end ImportReading

/-! ## Requests and mounts -/

/-- The outlines of the arguments. -/
def CallArguments.outline (args : CallArguments) : CallArguments where
  positional := args.positional.map Node.outline
  keywords := args.keywords.mapValues Node.outline

theorem CallArguments.add_outline (args : CallArguments) (n : Node) :
    CallArguments.add src args.outline n.outline = (CallArguments.add src args n).outline := by
  unfold CallArguments.add
  rw [Node.kind_outline, Node.isSplat_outline]
  cases hkind : n.kind == "keyword_argument" with
  | true =>
      have hopaque := Node.isOpaque_of_kind hkind (by decide)
      rw [Node.child?_outline hopaque, Node.child?_outline hopaque]
      cases n.child? "name" with
      | none => rfl
      | some name =>
          cases n.child? "value" with
          | none => rfl
          | some value => simp [CallArguments.outline, Dictionary.put_mapValues]
  | false =>
      rw [if_neg Bool.false_ne_true, if_neg Bool.false_ne_true]
      split
      · rfl
      · simp [CallArguments.outline]

theorem CallArguments.foldl_add_outline (ns : List Node) (args : CallArguments) :
    (ns.map Node.outline).foldl (CallArguments.add src) args.outline =
      (ns.foldl (CallArguments.add src) args).outline := by
  induction ns generalizing args with
  | nil => rfl
  | cons n ns ih => rw [List.map_cons, List.foldl_cons, List.foldl_cons, add_outline, ih]

theorem Node.callArguments_outline {n : Node} (h : isOpaque n.kind = false) :
    n.outline.callArguments src = (n.callArguments src).outline := by
  unfold callArguments
  rw [child?_outline h]
  cases n.child? "arguments" with
  | none => rfl
  | some list =>
      simp only [Option.map_some, kind_outline]
      split
      · rename_i hkind
        rw [contents_outline (isOpaque_of_kind hkind (by decide))]
        exact CallArguments.foldl_add_outline src list.contents {}
      · rfl

theorem requestOf?_outline (config : Config) (function : String) (args : CallArguments) :
    requestOf? src config function args.outline =
      (requestOf? src config function args).map fun r => (r.1, r.2.map Node.outline) := by
  have hfirst : args.outline.positional.head? = args.positional.head?.map Node.outline :=
    List.head?_map
  have hsecond : args.outline.positional[1]? = args.positional[1]?.map Node.outline :=
    List.getElem?_map
  have hkeyword : ∀ key, args.outline.keywords.get? key =
      (args.keywords.get? key).map Node.outline := Dictionary.get?_mapValues _ _
  have horElse : ∀ a b : Option Node, (a.map Node.outline <|> b.map Node.outline) =
      (a <|> b).map Node.outline := fun a b => by cases a <;> rfl
  unfold requestOf?
  rw [hfirst, hsecond, hkeyword, hkeyword, horElse, horElse, horElse]
  split
  · rfl
  · split
    · simp only [Option.bind_eq_bind, Option.map_bind, Option.bind_map, Function.comp_def,
        stringText?_outline]
      rfl
    · rfl

theorem CallSite.clientCall?_outline (config : Config) (call : CallSite) {n : Node}
    (h : Node.isOpaque n.kind = false) :
    call.clientCall? src config n.outline = call.clientCall? src config n := by
  unfold clientCall?
  simp only [Node.callArguments_outline src h, requestOf?_outline, Option.bind_eq_bind,
    Option.bind_map, Function.comp_def, addressPath_map_outline, Option.map_map,
    Source.text_outline]

theorem Node.mount?_outline (config : Config) (hint : Option String) {n : Node}
    (h : isOpaque n.kind = false) : n.outline.mount? src config hint = n.mount? src config hint := by
  simp only [mount?, kind_outline, callee?_outline src h, child?_outline h, arguments_map_outline,
    Source.line_outline]

theorem Node.mountMisfit?_outline (misfits : Misfits) {n : Node} (h : isOpaque n.kind = false) :
    n.outline.mountMisfit? src misfits = n.mountMisfit? src misfits := by
  simp only [mountMisfit?, kind_outline, callee?_outline src h]

end Expressions

/-! ## Resolution -/

namespace CallContext

variable (ctx : CallContext)

theorem receiverMethod?_outline (chain : List Symbol) (n : Node) :
    ctx.receiverMethod? chain n.outline = ctx.receiverMethod? chain n := by
  unfold receiverMethod?
  rw [Node.kind_outline, Source.text_outline]
  cases hcall : n.kind == "call" with
  | false => simp
  | true => rw [Node.callee?_outline ctx.src (Node.isOpaque_of_kind hcall (by decide))]

theorem resolveSelf?_outline (chain : List Symbol) (n : Node) :
    ctx.resolveSelf? chain n.outline = ctx.resolveSelf? chain n := by
  unfold resolveSelf?
  rw [Node.kind_outline]
  split
  · rename_i hkind
    have hopaque := Node.isOpaque_of_kind hkind (by decide)
    simp only [Node.child?_outline hopaque, Option.bind_eq_bind, Option.bind_map,
      Function.comp_def, receiverMethod?_outline, Source.text_outline]
  · rfl

theorem resolve?_outline (chain : List Symbol) (aliases : Aliases) (n : Node) :
    ctx.resolve? chain aliases n.outline = ctx.resolve? chain aliases n := by
  simp only [resolve?, resolveSelf?_outline, resolveSameFile?, resolveImported?,
    Node.kind_outline, Source.text_outline, dottedName?_outline]

theorem aliasOfItem?_outline (chain : List Symbol) (n : Node) :
    ctx.aliasOfItem? chain n.outline = ctx.aliasOfItem? chain n := by
  unfold aliasOfItem?
  rw [Node.kind_outline]
  cases hitem : n.kind == "with_item" with
  | false => rfl
  | true =>
      rw [Node.child?_outline (Node.isOpaque_of_kind hitem (by decide))]
      cases n.child? "value" with
      | none => rfl
      | some value =>
          simp only [Option.map_some, Option.bind_eq_bind, Option.bind_some, Node.kind_outline]
          cases hpattern : value.kind == "as_pattern" with
          | false => rfl
          | true =>
              have hopaque := Node.isOpaque_of_kind hpattern (by decide)
              rw [Node.contents_outline hopaque, Node.child?_outline hopaque, List.head?_map]
              cases value.contents.head? with
              | none => rfl
              | some expression =>
                  simp only [Option.map_some, Option.bind_some, Option.bind_map, Function.comp_def,
                    Node.kind_outline, Source.text_outline]
                  cases hcall : expression.kind == "call" with
                  | false => rfl
                  | true =>
                      rw [Node.callee?_outline ctx.src (Node.isOpaque_of_kind hcall (by decide))]

end CallContext

end SourceFacts
