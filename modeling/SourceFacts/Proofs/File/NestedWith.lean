import SourceFacts.Proofs.Call.LocalImport
import SourceFacts.Proofs.Call.NestedWith
import SourceFacts.Proofs.File.Replace

/-!
# Files with nested `with` statements

A `with` statement with several items means nested statements with one item each, but for the calls of
an item that go through a name which an item before it binds: only the nested statements find them.
-/

namespace SourceFacts

open Node (Replaces Exchange Passes IsWith Nests)
open Definitions

section Statements

variable {isAsync : Bool} {items : List Node} {body w w' : Node}

/-! ## Definitions -/

theorem ofClauses_parts (src : Source) (file : String) (parent : Option Symbol) (n : Node) :
    ofClauses src file parent n.children = ofClauses src file parent n.parts := by
  have hkinds : ∀ kind ∈ Node.markKinds,
      (kind == "block") = false ∧ compoundStatements.contains kind = false := by decide
  refine Node.parts_induction
    (P := fun ns ms => ofClauses src file parent ns = ofClauses src file parent ms)
    rfl (fun c ns ms ih => ?_) (fun c ns ms hmark ih => ?_) n
  · rw [ofClauses, ofClauses, ih]
  · obtain ⟨hblock, hcompound⟩ := hkinds c.kind (List.contains_iff_mem.mp (Node.kind_of_isMark hmark))
    rw [ofClauses, hblock, hcompound, ih]
    simp [empty_append]

theorem ofStatement_isWith (h : IsWith isAsync items body w) (src : Source) (file : String)
    (parent : Option Symbol) (lenient : Bool) :
    ofStatement src file parent lenient w = ofBlock src file parent body := by
  obtain ⟨clause, hclause, hparts⟩ := h.parts
  have hclauses : ofStatement src file parent lenient w = ofClauses src file parent w.children := by
    have hkind := h.kind
    cases w with
    | node l cs =>
        change l.kind = "with_statement" at hkind
        exact ofStatement_of_compound src file parent lenient cs (by rw [hkind]; decide)
  rw [hclauses, ofClauses_parts, hparts, ofClauses, ofClauses, ofClauses, h.isContent_body,
    h.bodyKind, hclause.kind, append_empty]
  simp [compoundStatements, empty_append]

theorem ofStatement_nests (h : Nests isAsync body items w) (src : Source) (file : String)
    (parent : Option Symbol) (lenient : Bool) :
    ofStatement src file parent lenient w = ofBlock src file parent body := by
  induction h generalizing lenient with
  | last h => exact ofStatement_isWith h src file parent lenient
  | @cons item w block inner items h present children content rest ih =>
      rw [ofStatement_isWith h]
      -- The block between two statements holds the inner one and nothing else.
      cases block with
      | node l cs =>
          rw [Node.children_node] at children
          rw [ofBlock, children, ofStatements, ofStatements, content, append_empty]
          exact ih false

/-! ## Exchange -/

theorem outline_of_label (hkind : Node.isOpaque w.kind = true) (hlabel : w'.label = w.label) :
    w'.outline = w.outline := by
  cases w with
  | node l cs =>
  cases w' with
  | node l' cs' =>
      cases hlabel
      change Node.isOpaque l.kind = true at hkind
      rw [Node.outline, Node.outline, if_pos hkind, if_pos hkind]

theorem exchange_nests (h : IsWith isAsync items body w) (h' : Nests isAsync body items w')
    (hlabel : w'.label = w.label) (hfield : w.field = none) :
    Exchange (fun _ => True) w w' where
  field := hfield
  field' := (congrArg Label.field hlabel).trans hfield
  content := by rw [Node.isContent, Node.isContent, Node.kind, Node.kind, hlabel]
  outline := fun _ _ => Or.inr (Or.inr (outline_of_label (by rw [h.kind]; decide) hlabel))
  walk := fun cut p hcut hp => (h'.walk hcut hp).trans (h.walk hcut hp).symm

theorem sameDefinitions_nests (h : IsWith isAsync items body w) (h' : Nests isAsync body items w')
    (hlabel : w'.label = w.label) (src : Source) (file : String) :
    SameDefinitions src file (fun _ => True) w w' where
  statement := fun _ _ parent lenient _ =>
    (ofStatement_nests h' src file parent lenient).trans
      (ofStatement_isWith h src file parent lenient).symm
  block := fun _ _ _ => by rw [h.kind]; decide
  parameter := fun _ _ _ => by
    rw [← Node.parameterName?_outline, outline_of_label (by rw [h.kind]; decide) hlabel,
      Node.parameterName?_outline]
  base := fun _ _ _ => by
    rw [← Source.text_outline, outline_of_label (by rw [h.kind]; decide) hlabel, Source.text_outline,
      Node.isSplat, Node.isSplat, Node.kind, Node.kind, hlabel]
    exact ⟨rfl, rfl⟩

/-! ## Calls -/

/-- The calls of two trees that differ in a `with` statement: those of its items, as far as they can
agree, those of its body, which are the same, and around them the calls that stay. -/
inductive NestedCalls (ctx : CallContext) (items : List Node) (body : Node) :
    List (CallSite × Node) → List (CallSite × Node) → Prop where
  | intro {s : Surroundings}
      {before before' calls calls' inBody after after' : List (CallSite × Node)}
      (hbefore : List.Forall₂ CallContext.SameCall before before')
      (hitems : ItemCalls ctx s [] items calls calls')
      (hbody : inBody.map (·.2) = body.preorder.filter fun n => n.kind == "call")
      (hafter : List.Forall₂ CallContext.SameCall after after') :
      NestedCalls ctx items body (before ++ (calls ++ (inBody ++ after)))
        (before' ++ (calls' ++ (inBody ++ after')))

theorem keptAround_nestedCalls (ctx : CallContext) (items : List Node) (body : Node) :
    CallContext.KeptAround (NestedCalls ctx items body) := by
  intro a a' m m' b b' ha hm hb
  cases hm with
  | intro hbefore hitems hbody hafter =>
      have hall := NestedCalls.intro (List.rel_append ha hbefore) hitems hbody
        (List.rel_append hafter hb)
      simpa only [List.append_assoc] using hall

theorem NestedCalls.sameCalls {ctx : CallContext} {calls calls' : List (CallSite × Node)}
    (h : NestedCalls ctx items body calls calls') (hfree : Independent ctx.src items) :
    List.Forall₂ CallContext.SameCall calls calls' := by
  cases h with
  | intro hbefore hitems _ hafter =>
      rw [CallContext.eq_of_itemCalls hitems hfree]
      exact List.rel_append hbefore (List.rel_append (CallContext.sameCalls_rfl _)
        (List.rel_append (CallContext.sameCalls_rfl _) hafter))

theorem nestedCalls_nests (h : IsWith isAsync items body w) (h' : Nests isAsync body items w')
    (hlabel : w'.label = w.label) (hfield : w.field = none) {t t' : Node}
    (hreplaces : Replaces (fun _ => True) w w' t t') (faults : Faults) (file : String) (src : Source) :
    NestedCalls (fileContext faults file src t).headers items body
      ((fileContext faults file src t).calls t)
      ((fileContext faults file src t').calls t') := by
  refine calls_replaced (exchange_nests h h' hlabel hfield) (sameDefinitions_nests h h' hlabel src file)
    hreplaces faults (keptAround_nestedCalls _ items body) fun l before after σ σ' _ hσ => ?_
  have henter := CallContext.enter_alike hσ
    (CallContext.sameFrame_of_replaces (fileContext faults file src t).headers
      (exchange_nests h h' hlabel hfield) (@Replaces.here _ w w' l before after trivial)) hlabel
  obtain ⟨τ, calls, calls', inBody, hitems, hbody, heq, heq'⟩ :=
    CallContext.callsFrom_isWith_nests _ h h' henter.scope henter.aliases
  rw [heq, heq']
  have hall : NestedCalls _ items body _ _ := .intro .nil hitems hbody .nil
  simpa only [List.nil_append, List.append_nil] using hall

end Statements

/-! ## Files -/

/-- A `with` statement with several items means nested statements. The calls of its items are the same
in both, but for those that go through a name which an item before binds: only the nested statements
lead them to the module of that item. The calls of its body and around it are the same. Where no item calls through a name of an item before, all facts are the same,
up to headers. -/
theorem with_items_nest {isAsync : Bool} {items : List Node} {body w w' t t' : Node}
    (h : IsWith isAsync items body w) (h' : Nests isAsync body items w')
    (hlabel : w'.label = w.label) (hfield : w.field = none)
    (hreplaces : Replaces (fun _ => True) w w' t t') (config : Config) (faults : Faults)
    (file : String) (src : Source) (misfits : Misfits) :
    NestedCalls (fileContext faults file src t).headers items body
        ((fileContext faults file src t).calls t) ((fileContext faults file src t').calls t') ∧
      (Independent src items →
        (analyzeFile config faults file src (some t') misfits).map FileOutcome.headers =
            (analyzeFile config faults file src (some t) misfits).map FileOutcome.headers ∧
          (t.kind = "module" → (Path.parse file).name ≠ "" →
            ∃ f f', analyzeFile config faults file src (some t) misfits = .ok (.facts f) ∧
              analyzeFile config faults file src (some t') misfits = .ok (.facts f') ∧
              f'.headers = f.headers)) := by
  have hcalls := nestedCalls_nests h h' hlabel hfield hreplaces faults file src
  refine ⟨hcalls, fun hfree => ?_⟩
  refine analyzeFile_of_moduleFacts config faults src misfits hreplaces.kind_eq fun module => ?_
  exact moduleFacts_replaced (exchange_nests h h' hlabel hfield)
    (sameDefinitions_nests h h' hlabel src file) hreplaces config faults module misfits
    (hcalls.sameCalls hfree)

/-! ## Two sessions, and a request of the first -/

/-- The tree of a call of an attribute. -/
def methodCall (start dot nameStop stop : Nat) (arguments : List Node) : Node :=
  .node { kind := "call", start, stop }
    [.node { kind := "attribute", start, stop := nameStop, field := some "function" }
      [.node { kind := "identifier", start, stop := dot, field := some "object" } [],
       token "." dot (dot + 1),
       .node { kind := "identifier", start := dot + 1, stop := nameStop, field := some "attribute" } []],
     .node { kind := "argument_list", start := nameStop, stop, field := some "arguments" }
      (token "(" nameStop (nameStop + 1) :: arguments ++ [token ")" (stop - 1) stop])]

/-- The tree of an item that gives a call a name of one letter. -/
def namedItem (call : Node) (stop : Nat) : Node :=
  .node { kind := "with_item", start := call.start, stop }
    [.node { kind := "as_pattern", start := call.start, stop, field := some "value" }
      [call, token "as" (call.stop + 1) (call.stop + 3),
       .node { kind := "as_pattern_target", start := stop - 1, stop, field := some "alias" }
        [.node { kind := "identifier", start := stop - 1, stop } []]]]

/-- The tree of an asynchronous `with` statement. -/
def asyncWith (start stop : Nat) (clause : List Node) (body : Node) : Node :=
  .node { kind := "with_statement", start, stop }
    [token "async" 15 20, token "with" 21 25,
     .node { kind := "with_clause", start := 26, stop := 72 } clause, token ":" 72 73, body]

def blockOf (start stop : Nat) (statement : Node) : Node :=
  .node { kind := "block", start, stop, field := some "body" } [statement]

theorem isWith_asyncWith {start stop a b : Nat} {clause items : List Node} {statement : Node}
    (h : clause.filter (fun c => !c.isMark) = items) :
    IsWith true items (blockOf a b statement) (asyncWith start stop clause (blockOf a b statement)) where
  kind := rfl
  present := rfl
  async := rfl
  parts := ⟨.node { kind := "with_clause", start := 26, stop := 72 } clause,
    ⟨rfl, rfl, rfl, rfl, h⟩, rfl⟩
  bodyKind := rfl
  bodyField := rfl
  bodyNamed := rfl

/-- The tree of a module that imports `aiohttp` and goes on with a statement. -/
def importingModule (stop : Nat) (statement : Node) : Node :=
  .node { kind := "module", start := 0, stop }
    [.node { kind := "import_statement", start := 0, stop := 14 }
      [token "import" 0 6,
       .node { kind := "dotted_name", start := 7, stop := 14, field := some "name" }
        [.node { kind := "identifier", start := 7, stop := 14 } []]],
     statement]

/-- The tree of the address that is asked for. -/
def address (start : Nat) : Node :=
  .node { kind := "string", start, stop := start + 4 }
    [.node { kind := "string_start", start, stop := start + 1 } [],
     .node { kind := "string_content", start := start + 1, stop := start + 3 } [],
     .node { kind := "string_end", start := start + 3, stop := start + 4 } []]

def sessionSource (rest : String) : Source :=
  plainSource ("import aiohttp\nasync with aiohttp.ClientSession() as s, " ++ rest)

def firstSession : Node := namedItem (methodCall 26 33 47 49 []) 54

/-- The tree of a statement that opens a session and something else. -/
def sideBySide (stop : Nat) (second statement : Node) : Node :=
  asyncWith 15 stop [firstSession, token "," 54 55, second] (blockOf 74 stop statement)

/-- The tree of the two statements that open them one after the other. -/
def oneInOther (stop : Nat) (second statement : Node) : Node :=
  asyncWith 15 stop [firstSession]
    (blockOf 56 stop (asyncWith 56 stop [second] (blockOf 74 stop statement)))

section Sessions

variable (stop : Nat) {second : Node} (statement : Node) (h : second.isMark = false)

include h

theorem isWith_sideBySide :
    IsWith true [firstSession, second] (blockOf 74 stop statement) (sideBySide stop second statement) := by
  refine isWith_asyncWith ?_
  rw [List.filter_cons_of_pos (by decide), List.filter_cons_of_neg (by decide),
    List.filter_cons_of_pos (by rw [h]; rfl), List.filter_nil]

theorem nests_oneInOther :
    Nests true (blockOf 74 stop statement) [firstSession, second] (oneInOther stop second statement) := by
  refine .cons (isWith_asyncWith rfl) rfl rfl rfl (.last (isWith_asyncWith ?_))
  rw [List.filter_cons_of_pos (by rw [h]; rfl), List.filter_nil]

end Sessions

theorem replaces_sideBySide (stop : Nat) (second statement : Node) :
    Replaces (fun _ => True) (sideBySide stop second statement) (oneInOther stop second statement)
      (importingModule (stop + 1) (sideBySide stop second statement))
      (importingModule (stop + 1) (oneInOther stop second statement)) :=
  @Replaces.here _ _ _ _ [_] [] trivial

/-- Two sessions can be opened by one statement or by two. The request of the first one is found in the
body of either. -/
theorem with_items_nest_sessions :
    let src := sessionSource "aiohttp.F() as r: s.get(\"/u\")\n"
    let second := namedItem (methodCall 56 63 65 67 []) 72
    let request : Node :=
      .node { kind := "expression_statement", start := 74, stop := 85 }
        [methodCall 74 75 79 85 [address 80]]
    let t := importingModule 86 (sideBySide 85 second request)
    let t' := importingModule 86 (oneInOther 85 second request)
    Replaces (fun _ => True) (sideBySide 85 second request) (oneInOther 85 second request) t t' ∧
      Independent src [firstSession, second] ∧
      (fileCalls Faults.none "m.py" src t).map (fun c => (c.1.callee, c.1.targetModule, c.1.receiver)) =
        [("aiohttp.ClientSession", some "aiohttp", none), ("aiohttp.F", some "aiohttp", none),
         ("s.get", some "aiohttp", some "s")] ∧
      NestedCalls (fileContext Faults.none "m.py" src t).headers [firstSession, second]
        (blockOf 74 85 request) ((fileContext Faults.none "m.py" src t).calls t)
        ((fileContext Faults.none "m.py" src t').calls t') ∧
      ∃ f f', analyzeFile {} Faults.none "m.py" src (some t) = .ok (.facts f) ∧
        analyzeFile {} Faults.none "m.py" src (some t') = .ok (.facts f') ∧ f'.headers = f.headers := by
  intro src second request t t'
  have hmark : second.isMark = false := by decide
  have hfree : Independent src [firstSession, second] := by decide +kernel
  have hreplaces := replaces_sideBySide 85 second request
  obtain ⟨hcalls, hfacts⟩ := with_items_nest (isWith_sideBySide 85 request hmark)
    (nests_oneInOther 85 request hmark) rfl rfl hreplaces {} Faults.none "m.py" src {}
  exact ⟨hreplaces, hfree, by decide +kernel, hcalls, (hfacts hfree).2 rfl (by decide)⟩

/-- A request that opens the second context goes through the session of the first one. Two statements
find it, one statement does not. -/
theorem with_items_hide_names :
    let src := sessionSource "s.get(\"/u\") as r: pass\n"
    let second := namedItem (methodCall 56 57 61 67 [address 62]) 72
    let pass : Node := .node { kind := "pass_statement", start := 74, stop := 78 } []
    let t := importingModule 79 (sideBySide 78 second pass)
    let t' := importingModule 79 (oneInOther 78 second pass)
    IsWith true [firstSession, second] (blockOf 74 78 pass) (sideBySide 78 second pass) ∧
      Nests true (blockOf 74 78 pass) [firstSession, second] (oneInOther 78 second pass) ∧
      Replaces (fun _ => True) (sideBySide 78 second pass) (oneInOther 78 second pass) t t' ∧
      (fileCalls Faults.none "m.py" src t).map
          (fun c => (c.1.callee, c.1.kind, c.1.targetModule, c.1.targetSymbol, c.1.receiver)) =
        [("aiohttp.ClientSession", .importQualified, some "aiohttp", some "ClientSession", none),
         ("s.get", .unresolved, none, none, none)] ∧
      (fileCalls Faults.none "m.py" src t').map
          (fun c => (c.1.callee, c.1.kind, c.1.targetModule, c.1.targetSymbol, c.1.receiver)) =
        [("aiohttp.ClientSession", .importQualified, some "aiohttp", some "ClientSession", none),
         ("s.get", .importQualified, some "aiohttp", some "get", some "s")] ∧
      ∃ f f', analyzeFile {} Faults.none "m.py" src (some t) = .ok (.facts f) ∧
        analyzeFile {} Faults.none "m.py" src (some t') = .ok (.facts f') ∧
        f.clientCalls.length = 0 ∧
        f'.clientCalls.map (fun c => (c.method, c.path, c.library)) =
          [("GET", some "/u", "aiohttp")] := by
  intro src second pass t t'
  have hmark : second.isMark = false := by decide
  have hname : (Path.parse "m.py").name ≠ "" := by decide
  obtain ⟨module, hmodule⟩ := exists_moduleName hname
  refine ⟨isWith_sideBySide 78 pass hmark, nests_oneInOther 78 pass hmark,
    replaces_sideBySide 78 second pass, by decide +kernel, by decide +kernel, _, _,
    analyzeFile_module {} {} Faults.none "m.py" module src t rfl hmodule,
    analyzeFile_module {} {} Faults.none "m.py" module src t' rfl hmodule, ?_, ?_⟩
  · rw [moduleFacts_clientCalls, (sortBy_perm _ _).length_eq]
    decide +kernel
  · rw [moduleFacts_clientCalls]
    exact map_sortBy_of_singleton (by decide +kernel)

end SourceFacts
