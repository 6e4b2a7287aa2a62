import SourceFacts.Proofs.Symbol.Header
import SourceFacts.Proofs.Syntax.Replace

/-!
# Definitions around a statement that gave way

A statement that defines the same can be put for another one: the headers of the definitions around it
stay as they are, since these read nothing of their bodies but documentation and stubs.
-/

namespace SourceFacts

open Node (Replaces Exchange)

namespace Definitions

variable (src : Source) (file : String)

theorem headers_append (a b : Definitions) : (a ++ b).headers = a.headers ++ b.headers := by
  change headers (append a b) = append a.headers b.headers
  simp [headers, append]

theorem append_empty (d : Definitions) : d ++ ({} : Definitions) = d := by
  change append d {} = d
  simp [append]

theorem headers_eq_iff {a b : Definitions} :
    a.headers = b.headers ↔
      (a.symbols.map fun e => (e.1, e.2.header)) = (b.symbols.map fun e => (e.1, e.2.header)) ∧
        a.direct = b.direct ∧ a.moduleVariables = b.moduleVariables ∧
          a.diagnostics = b.diagnostics := by
  simp [headers]

/-! ## The header of the parent is enough -/

section Parent

variable (parent : Option Symbol)

theorem qualify_header (name : String) :
    qualify (parent.map Symbol.header) name = qualify parent name := by
  cases parent <;> rfl

theorem functionSymbol_header (decorators : List Decorator) (name : String) (n : Node) :
    functionSymbol src (parent.map Symbol.header) decorators name n =
      functionSymbol src parent decorators name n := by
  unfold functionSymbol
  rw [qualify_header, Option.any_map, Option.map_map]
  rfl

theorem classSymbol_header (decorators : List Decorator) (name : String) (n : Node) :
    classSymbol src (parent.map Symbol.header) decorators name n =
      classSymbol src parent decorators name n := by
  unfold classSymbol
  rw [qualify_header, Option.map_map]
  rfl

theorem define_header (decorators : List Decorator) (n : Node) (inside : Symbol → Definitions) :
    define src file (parent.map Symbol.header) decorators n inside =
      define src file parent decorators n inside := by
  unfold define
  simp only [functionSymbol_header, classSymbol_header]

end Parent

mutual

theorem ofStatement_header (parent : Option Symbol) (lenient : Bool) :
    (n : Node) → ofStatement src file (parent.map Symbol.header) lenient n =
      ofStatement src file parent lenient n
  | .node l cs => by
      rw [ofStatement, ofStatement, define_header, ofDecorated_header parent _ cs,
        ofClauses_header parent cs, ofStatements_header parent true cs, Option.isNone_map]

theorem ofStatements_header (parent : Option Symbol) (lenient : Bool) :
    (ns : List Node) → ofStatements src file (parent.map Symbol.header) lenient ns =
      ofStatements src file parent lenient ns
  | [] => by rw [ofStatements, ofStatements]
  | n :: ns => by
      rw [ofStatements, ofStatements, ofStatement_header parent lenient n,
        ofStatements_header parent lenient ns]

theorem ofBlock_header (parent : Option Symbol) :
    (n : Node) → ofBlock src file (parent.map Symbol.header) n = ofBlock src file parent n
  | .node l cs => by rw [ofBlock, ofBlock, ofStatements_header parent false cs]

theorem ofClauses_header (parent : Option Symbol) :
    (ns : List Node) → ofClauses src file (parent.map Symbol.header) ns =
      ofClauses src file parent ns
  | [] => by rw [ofClauses, ofClauses]
  | n :: ns => by
      rw [ofClauses, ofClauses, ofBlock_header parent n, ofStatement_header parent false n,
        ofClauses_header parent ns]

theorem ofDecorated_header (parent : Option Symbol) (whole : Node) :
    (ns : List Node) → ofDecorated src file (parent.map Symbol.header) whole ns =
      ofDecorated src file parent whole ns
  | [] => by rw [ofDecorated, ofDecorated]
  | n :: ns => by
      rw [ofDecorated, ofDecorated, ofDefinition_header parent _ n,
        ofDecorated_header parent whole ns]

theorem ofDefinition_header (parent : Option Symbol) (decorators : List Decorator) :
    (n : Node) → ofDefinition src file (parent.map Symbol.header) decorators n =
      ofDefinition src file parent decorators n
  | .node l cs => by rw [ofDefinition, ofDefinition, define_header]

end

theorem ofBlock_of_header {s s' : Symbol} (h : s'.header = s.header) (n : Node) :
    ofBlock src file (some s') n = ofBlock src file (some s) n := by
  rw [← ofBlock_header src file (some s'), Option.map_some, h, ← Option.map_some, ofBlock_header]

theorem ofStatement_of_compound (parent : Option Symbol) (lenient : Bool) {l : Label}
    (cs : List Node) (h : compoundStatements.contains l.kind = true) :
    ofStatement src file parent lenient (.node l cs) = ofClauses src file parent cs := by
  have hkinds : ∀ kind ∈ compoundStatements,
      isPlainDefinition kind = false ∧ (kind == "decorated_definition") = false := by decide
  obtain ⟨hplain, hdecorated⟩ := hkinds l.kind (List.contains_iff_mem.mp h)
  rw [ofStatement, hplain, hdecorated, h]
  rfl

/-! ## Siblings -/

section Siblings

variable {src file} {c c' : Node} (before after : List Node)

theorem headers_ofStatements {parent : Option Symbol} {lenient : Bool}
    (hcontent : c'.isContent = c.isContent)
    (hstatement : (ofStatement src file parent lenient c').headers =
      (ofStatement src file parent lenient c).headers) :
    (ofStatements src file parent lenient (before ++ c' :: after)).headers =
      (ofStatements src file parent lenient (before ++ c :: after)).headers := by
  induction before with
  | nil =>
      simp only [List.nil_append, ofStatements, headers_append, hcontent]
      split
      · rw [hstatement]
      · rfl
  | cons b before ih => simp only [List.cons_append, ofStatements, headers_append, ih]

theorem headers_ofClauses {parent : Option Symbol} (hcontent : c'.isContent = c.isContent)
    (hkind : c'.kind = c.kind)
    (hblock : c.kind = "block" →
      (ofBlock src file parent c').headers = (ofBlock src file parent c).headers)
    (hstatement : (ofStatement src file parent false c').headers =
      (ofStatement src file parent false c).headers) :
    (ofClauses src file parent (before ++ c' :: after)).headers =
      (ofClauses src file parent (before ++ c :: after)).headers := by
  induction before with
  | nil =>
      simp only [List.nil_append, ofClauses, headers_append, hcontent, hkind]
      refine congrArg (· ++ (ofClauses src file parent after).headers) ?_
      split
      · split
        · rename_i h
          exact hblock (beq_iff_eq.mp h)
        · split
          · exact hstatement
          · rfl
      · rfl
  | cons b before ih => simp only [List.cons_append, ofClauses, headers_append, ih]

theorem headers_ofBody {s s' : Symbol} (hheader : s'.header = s.header)
    (hfield : c'.field = c.field)
    (hblock : c.hasField "body" = true → ∀ parent,
      (ofBlock src file parent c').headers = (ofBlock src file parent c).headers) :
    (ofBody src file s' (before ++ c' :: after)).headers =
      (ofBody src file s (before ++ c :: after)).headers := by
  have hrest : ∀ ns, ofBody src file s' ns = ofBody src file s ns := by
    intro ns
    induction ns with
    | nil => rw [ofBody, ofBody]
    | cons n ns ih => rw [ofBody, ofBody, ofBlock_of_header src file hheader, ih]
  have hrole : c'.hasField "body" = c.hasField "body" := by
    rw [Node.hasField, Node.hasField, hfield]
  induction before with
  | nil =>
      rw [List.nil_append, List.nil_append, ofBody, ofBody, hrole]
      split
      · rename_i h
        rw [ofBlock_of_header src file hheader, hblock h]
      · rw [hrest]
  | cons b before ih =>
      rw [List.cons_append, List.cons_append, ofBody, ofBody, ofBlock_of_header src file hheader]
      split
      · rfl
      · exact ih

theorem headers_ofDecorated {parent : Option Symbol} {whole whole' : Node}
    (hline : whole'.start = whole.start)
    (hdecorators : whole'.decorators src = whole.decorators src) (hfield : c'.field = c.field)
    (hdefinition : c.hasField "definition" = true → ∀ decorators,
      (ofDefinition src file parent decorators c').headers =
        (ofDefinition src file parent decorators c).headers) :
    (ofDecorated src file parent whole' (before ++ c' :: after)).headers =
      (ofDecorated src file parent whole (before ++ c :: after)).headers := by
  have hrest : ∀ ns, ofDecorated src file parent whole' ns = ofDecorated src file parent whole ns := by
    intro ns
    induction ns with
    | nil => rw [ofDecorated, ofDecorated, problem, problem, Source.line, Source.line, hline]
    | cons n ns ih => rw [ofDecorated, ofDecorated, hdecorators, ih]
  have hrole : c'.hasField "definition" = c.hasField "definition" := by
    rw [Node.hasField, Node.hasField, hfield]
  induction before with
  | nil =>
      rw [List.nil_append, List.nil_append, ofDecorated, ofDecorated, hrole, hdecorators]
      split
      · rename_i h
        exact hdefinition h _
      · rw [hrest]
  | cons b before ih =>
      rw [List.cons_append, List.cons_append, ofDecorated, ofDecorated, hdecorators]
      split
      · rfl
      · exact ih

end Siblings

end Definitions

open Definitions

/-- The second statement defines what the first one does, and is no other parameter or base. -/
structure SameDefinitions (src : Source) (file : String) (allowed : Label → Prop) (s s' : Node) :
    Prop where
  statement : ∀ l, allowed l → ∀ parent lenient, (lenient = true → l.kind = "ERROR") →
    ofStatement src file parent lenient s' = ofStatement src file parent lenient s
  block : ∀ l, allowed l → compoundStatements.contains l.kind = true → s.kind ≠ "block"
  parameter : ∀ l, allowed l → l.field = some "parameters" →
    s'.parameterName? src = s.parameterName? src
  base : ∀ l, allowed l → l.field = some "superclasses" →
    src.text s' = src.text s ∧
      (s'.kind != "keyword_argument" && !s'.isSplat) = (s.kind != "keyword_argument" && !s.isSplat)

theorem Node.filterMap_contents_of_child {α : Type} {f : Node → Option α} (before after : List Node)
    {c c' : Node} (hcontent : c'.isContent = c.isContent) (hf : f c' = f c) :
    ((before ++ c' :: after).filter Node.isContent).filterMap f =
      ((before ++ c :: after).filter Node.isContent).filterMap f := by
  simp only [List.filter_append, List.filter_cons, hcontent, List.filterMap_append]
  split
  · rw [List.filterMap_cons, List.filterMap_cons, hf]
  · rfl

section Symbols

variable {src : Source} {file : String} {allowed : Label → Prop} {s s' n n' : Node}
variable (hx : Exchange allowed s s') (hd : SameDefinitions src file allowed s s')

include hx

theorem Node.Replaces.textOf_child? (h : Replaces allowed s s' n n') (f : String) :
    src.textOf (n'.child? f) = src.textOf (n.child? f) := by
  rcases h.child? hx f with heq | ⟨c, c', hc, hc', hr⟩
  · rw [heq]
  · rw [hc, hc', Source.textOf, Source.textOf, ← Source.text_outline, hr.outline_eq hx,
      Source.text_outline]

theorem Node.Replaces.givenName? (h : Replaces allowed s s' n n') :
    givenName? src n' = givenName? src n := by
  unfold Definitions.givenName?
  rcases h.child? hx "name" with heq | ⟨c, c', hc, hc', hr⟩
  · rw [heq]
  · have htext : src.text c' = src.text c := by
      rw [← Source.text_outline, hr.outline_eq hx, Source.text_outline]
    rw [hc, hc']
    dsimp only
    rw [hr.label_eq, htext]

include hd

theorem Node.Replaces.parameterNames (h : Replaces allowed s s' n n') :
    Node.parameterNames src (n'.child? "parameters") =
      Node.parameterNames src (n.child? "parameters") := by
  rcases h.child? hx "parameters" with heq | ⟨c, c', hc, hc', hr⟩
  · rw [heq]
  have hrole : c.field = some "parameters" := by
    simpa [Node.hasField] using List.find?_some hc
  rw [hc, hc', Node.parameterNames, Node.parameterNames, Node.contents, Node.contents]
  cases hr with
  | @here l before after hl =>
      exact Node.filterMap_contents_of_child before after hx.content (hd.parameter l hl hrole)
  | @inside l before after m m' hr =>
      refine Node.filterMap_contents_of_child before after hr.isContent_eq ?_
      rw [← Node.parameterName?_outline, hr.outline_eq hx, Node.parameterName?_outline]

theorem Node.Replaces.baseTexts (h : Replaces allowed s s' n n') :
    baseTexts src n' = baseTexts src n := by
  unfold Definitions.baseTexts
  rcases h.child? hx "superclasses" with heq | ⟨c, c', hc, hc', hr⟩
  · rw [heq]
  have hrole : c.field = some "superclasses" := by
    simpa [Node.hasField] using List.find?_some hc
  have hread : ∀ ns : List Node,
      (ns.filter fun n => n.kind != "keyword_argument" && !n.isSplat).map src.text =
        ns.filterMap fun n =>
          if n.kind != "keyword_argument" && !n.isSplat then some (src.text n) else none := by
    intro ns
    rw [← List.filterMap_eq_map, List.filterMap_filter]
    rfl
  rw [hc, hc']
  dsimp only
  rw [hread, hread, Node.contents, Node.contents]
  cases hr with
  | @here l before after hl =>
      obtain ⟨htext, hbase⟩ := hd.base l hl hrole
      refine Node.filterMap_contents_of_child before after hx.content ?_
      rw [hbase, htext]
  | @inside l before after m m' hr =>
      refine Node.filterMap_contents_of_child before after hr.isContent_eq ?_
      rw [Node.isSplat, Node.isSplat, hr.kind_eq, ← Source.text_outline, hr.outline_eq hx,
        Source.text_outline]

theorem Node.Replaces.functionSymbol (h : Replaces allowed s s' n n')
    (hkind : n.kind = "function_definition") (parent : Option Symbol)
    (decorators : List Decorator) (name : String) :
    (functionSymbol src parent decorators name n').header =
      (functionSymbol src parent decorators name n).header := by
  have hopaque : Node.isOpaque n.kind = false := by rw [hkind]; decide
  have hasync : n'.hasChild "async" = n.hasChild "async" := by
    rw [← Node.hasChild_outline (h.kind_eq ▸ hopaque), h.outline_eq hx,
      Node.hasChild_outline hopaque]
  simp only [Definitions.functionSymbol, Symbol.header, Symbol.isStaticMethod, Symbol.hasDecorator,
    Symbol.decoratorPaths, h.parameterNames hx hd, h.textOf_child? hx, hasync, Source.line,
    Source.endLine, Source.column, Node.start, Node.stop, h.label_eq]

theorem Node.Replaces.classSymbol (h : Replaces allowed s s' n n') (parent : Option Symbol)
    (decorators : List Decorator) (name : String) :
    (classSymbol src parent decorators name n').header =
      (classSymbol src parent decorators name n).header := by
  simp only [Definitions.classSymbol, Symbol.header, h.baseTexts hx hd, Source.line,
    Source.endLine, Source.column, Node.start, Node.stop, h.label_eq]

theorem Node.Replaces.define (h : Replaces allowed s s' n n')
    {inside inside' : Symbol → Definitions}
    (hinside : ∀ t t', t'.header = t.header → (inside' t').headers = (inside t).headers)
    (parent : Option Symbol) (decorators : List Decorator) :
    (define src file parent decorators n' inside').headers =
      (define src file parent decorators n inside).headers := by
  unfold Definitions.define
  rw [h.kind_eq, h.givenName? hx]
  cases Definitions.givenName? src n with
  | none => simp only [problem, Source.line, h.start_eq]
  | some name =>
      have hsymbol : ∀ isFunction, isFunction = (n.kind == "function_definition") →
          (if isFunction = true then Definitions.functionSymbol src parent decorators name n'
            else Definitions.classSymbol src parent decorators name n').header =
          (if isFunction = true then Definitions.functionSymbol src parent decorators name n
            else Definitions.classSymbol src parent decorators name n).header := by
        intro isFunction hfunction
        split
        · rename_i htrue
          exact h.functionSymbol hx hd (beq_iff_eq.mp (hfunction ▸ htrue)) parent decorators name
        · exact h.classSymbol hx hd parent decorators name
      have hheader := hsymbol _ rfl
      have hinner := hinside _ _ hheader
      dsimp only
      revert hheader hinner
      generalize (if (n.kind == "function_definition") = true then
        Definitions.functionSymbol src parent decorators name n'
        else Definitions.classSymbol src parent decorators name n') = t'
      generalize (if (n.kind == "function_definition") = true then
        Definitions.functionSymbol src parent decorators name n
        else Definitions.classSymbol src parent decorators name n) = t
      intro hheader hinner
      obtain ⟨hsymbols, hdirect, hvariables, hdiagnostics⟩ := headers_eq_iff.mp hinner
      refine headers_eq_iff.mpr ⟨?_, ?_, hvariables, hdiagnostics⟩
      · rw [List.map_cons, List.map_cons, hsymbols, hdirect, h.start_eq]
        exact congrArg (fun u : Symbol => (n.start, { u with children := (inside t).direct }) :: _)
          hheader
      · rw [← Symbol.qualifiedName_header, hheader, Symbol.qualifiedName_header]

end Symbols

/-! ## Statements -/

theorem moduleVariable_outline (src : Source) {n : Node} (h : n.kind = "expression_statement") :
    moduleVariable src n.outline = moduleVariable src n := by
  have hopaque : Node.isOpaque n.kind = false := by rw [h]; decide
  unfold moduleVariable
  rw [Node.contents_outline hopaque, List.head?_map]
  cases n.contents.head? with
  | none => rfl
  | some e =>
      simp only [Option.map_some, Node.kind_outline, Source.line_outline]
      split
      · rename_i hkind
        rw [Node.child?_outline (Node.isOpaque_of_kind hkind (by decide))]
        cases e.child? "left" <;> simp
      · rfl

/-- The two nodes define the same, up to headers, wherever they stand. -/
structure SameHeaders (src : Source) (file : String) (n n' : Node) : Prop where
  statement : ∀ parent lenient, (ofStatement src file parent lenient n').headers =
    (ofStatement src file parent lenient n).headers
  block : ∀ parent, (ofBlock src file parent n').headers = (ofBlock src file parent n).headers
  definition : ∀ parent decorators, (ofDefinition src file parent decorators n').headers =
    (ofDefinition src file parent decorators n).headers

section Statements

variable {src : Source} {file : String} {allowed : Label → Prop} {s s' : Node}
variable (hx : Exchange allowed s s') (hd : SameDefinitions src file allowed s s')

include hx hd

/-- A node defines the same as before if the child that gave way does so in its place. -/
theorem sameHeaders_of_child {l : Label} {before after : List Node} {c c' : Node}
    (h : Replaces allowed s s' (.node l (before ++ c :: after)) (.node l (before ++ c' :: after)))
    (hcontent : c'.isContent = c.isContent) (hfield : c'.field = c.field)
    (hkind : compoundStatements.contains l.kind = true → c'.kind = c.kind)
    (hstatement : ∀ parent lenient, (lenient = true → l.kind = "ERROR") →
      (ofStatement src file parent lenient c').headers =
        (ofStatement src file parent lenient c).headers)
    (hblock : (compoundStatements.contains l.kind = true ∧ c.kind = "block") ∨
        c.hasField "body" = true →
      ∀ parent, (ofBlock src file parent c').headers = (ofBlock src file parent c).headers)
    (hdefinition : c.hasField "definition" = true → ∀ parent decorators,
      (ofDefinition src file parent decorators c').headers =
        (ofDefinition src file parent decorators c).headers) :
    SameHeaders src file (.node l (before ++ c :: after)) (.node l (before ++ c' :: after)) := by
  have hinside : ∀ t t' : Symbol, t'.header = t.header →
      (ofBody src file t' (before ++ c' :: after)).headers =
        (ofBody src file t (before ++ c :: after)).headers := fun t t' ht =>
    headers_ofBody before after ht hfield fun hrole => hblock (Or.inr hrole)
  constructor
  case statement =>
    intro parent lenient
    rw [ofStatement, ofStatement]
    split
    · exact h.define hx hd hinside parent []
    split
    · rename_i hdecorated
      have hopaque : Node.isOpaque (Node.node l (before ++ c :: after)).kind = false :=
        Node.isOpaque_of_kind hdecorated (by decide)
      refine headers_ofDecorated before after rfl ?_ hfield fun hrole => hdefinition hrole parent
      rw [← Node.decorators_outline src hopaque, ← h.outline_eq hx]
      exact (Node.decorators_outline src (h.kind_eq ▸ hopaque)).symm
    split
    · rename_i hcompound
      exact headers_ofClauses before after hcontent (hkind hcompound)
        (fun hk => hblock (Or.inl ⟨hcompound, hk⟩) parent)
        (hstatement parent false fun hfalse => absurd hfalse Bool.false_ne_true)
    split
    · rename_i hexpression
      split
      · have hk : (Node.node l (before ++ c :: after)).kind = "expression_statement" :=
          beq_iff_eq.mp hexpression
        rw [← moduleVariable_outline src hk, ← h.outline_eq hx,
          moduleVariable_outline src (h.kind_eq.trans hk)]
      · rfl
    split
    · rename_i herror
      exact headers_ofStatements before after hcontent
        (hstatement parent true fun _ => beq_iff_eq.mp herror)
    split <;> rfl
  case block =>
    intro parent
    rw [ofBlock, ofBlock]
    exact headers_ofStatements before after hcontent
      (hstatement parent false fun hfalse => absurd hfalse Bool.false_ne_true)
  case definition =>
    intro parent decorators
    rw [ofDefinition, ofDefinition]
    split
    · exact h.define hx hd hinside parent decorators
    · rfl

theorem Node.Replaces.sameHeaders {n n' : Node} (h : Replaces allowed s s' n n') :
    SameHeaders src file n n' := by
  induction h with
  | @here l before after hl =>
      have hrole : ∀ f, s.hasField f = true → False := by
        intro f hf
        rw [Node.hasField, hx.field] at hf
        cases hf
      have hkind : compoundStatements.contains l.kind = true → s'.kind = s.kind := by
        intro hcompound
        rcases hx.outline l hl with hmodule | hblock | hsame
        · rw [hmodule] at hcompound
          exact absurd hcompound (by decide)
        · rw [hblock] at hcompound
          exact absurd hcompound (by decide)
        · rw [← Node.kind_outline, hsame, Node.kind_outline]
      refine sameHeaders_of_child hx hd (.here hl) hx.content (hx.field'.trans hx.field.symm) hkind
        (fun parent lenient hlenient => by rw [hd.statement l hl parent lenient hlenient]) ?_
        (fun hf => (hrole _ hf).elim)
      rintro (⟨hcompound, hk⟩ | hf)
      · exact absurd hk (hd.block l hl hcompound)
      · exact (hrole _ hf).elim
  | inside h ih =>
      exact sameHeaders_of_child hx hd (.inside h) h.isContent_eq h.field_eq (fun _ => h.kind_eq)
        (fun parent lenient _ => ih.statement parent lenient) (fun _ => ih.block)
        fun _ => ih.definition

end Statements

end SourceFacts
