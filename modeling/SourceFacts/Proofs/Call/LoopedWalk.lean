import Mathlib.Data.Option.Basic
import SourceFacts.Proofs.Call.LoopEnd
import SourceFacts.Proofs.Call.Site

/-!
# The calls, found by loops

The calls of a tree as loops find them: one over the nodes that wait, and for each call, and each `with`
statement, those over the scopes around it. Each loop may make so many turns, and nothing has been found
while one of them is running. On whatever table it is, what is found in the end are the calls of the tree;
and if the ways outward end, an end comes.
-/

namespace SourceFacts

open Definitions (isPlainDefinition)

namespace CallContext

variable (ctx : CallContext) (turns : Nat)

/-! ## One call -/

/-- The second look-up is made where the first one finds nothing. -/
def thenLook {α : Type} (first second : Option (Option α)) : Option (Option α) :=
  first.bind fun found => if found.isSome then some found else second

/-- The method for a call on a receiver, and whether the class itself may define what is called. -/
def receiverWithin (scope : Option Symbol) (receiver : Node) : Option (Option (Symbol × Bool)) :=
  if receiver.kind == "identifier" then
    ((ScopeLoop.enclosing (some (ctx.src.text receiver))).run ctx.index turns [] scope).map
      (Option.map (·, true))
  else if receiver.kind == "call" && receiver.callee? ctx.src == some "super" then
    ((ScopeLoop.enclosing none).run ctx.index turns [] scope).map (Option.map (·, false))
  else some none

/-- The member of the class of a method. -/
def selfTarget? (member : Node) (found : Symbol × Bool) : Option Resolution := do
  let cls ← ctx.index.get? found.1.parent
  let target ← ctx.index.findMethod? cls (ctx.src.text member) found.2
  return { kind := .selfMethod, targetSymbol := some target.qualifiedName }

/-- The first rule. -/
def selfWithin (scope : Option Symbol) (function : Node) : Option (Option Resolution) :=
  if function.kind == "attribute" then
    match function.child? "object", function.child? "attribute" with
    | some receiver, some member =>
      (ctx.receiverWithin turns scope receiver).map (Option.bind · (ctx.selfTarget? member))
    | _, _ => some none
  else some none

/-- The second rule. -/
def sameFileWithin (scope : Option Symbol) (function : Node) : Option (Option Resolution) :=
  if function.kind == "identifier" then
    ((ScopeLoop.sameFile ctx (ctx.src.text function)).run ctx.index turns true scope).map
      (Option.map fun s => { kind := .sameFile, targetSymbol := some s.qualifiedName })
  else some none

/-- The import that binds a name. -/
def importWithin (scope : Option Symbol) (name : String) : Option (Option Import) :=
  (ScopeLoop.imported ctx name).run ctx.index turns () scope

/-- The third rule. -/
def importedWithin (scope : Option Symbol) (aliases : Aliases) (function : Node) :
    Option (Option Resolution) :=
  match dottedName? ctx.src function with
  | none => some none
  | some name =>
    match aliases.lookup (Text.firstPart name) with
    | some module =>
      some (some { kind := .importQualified, targetModule := some module
                   targetSymbol := nonEmpty? (Text.laterParts name)
                   receiver := some (Text.firstPart name) })
    | none =>
      (ctx.importWithin turns scope (Text.firstPart name)).map
        (Option.bind · fun entry =>
          some { kind := .importQualified, targetModule := some entry.originModule
                 targetSymbol := reached entry.originSymbol (Text.laterParts name) })

/-- What a call of the function is resolved to. -/
def resolveWithin (scope : Option Symbol) (aliases : Aliases) (function : Node) :
    Option (Option Resolution) :=
  thenLook (ctx.selfWithin turns scope function)
    (thenLook (ctx.sameFileWithin turns scope function)
      (ctx.importedWithin turns scope aliases function))

/-- The call site with what was found. -/
def siteOf (s : Surroundings) (call : Node) (found : Option Resolution) : CallSite :=
  match found with
  | some r =>
    { ctx.bareSite s call with
      kind := r.kind
      targetModule := r.targetModule
      targetSymbol := r.targetSymbol
      receiver := r.receiver }
  | none =>
    { ctx.bareSite s call with
      isBuiltin := (call.child? "function").any fun f =>
        f.kind == "identifier" && builtinNames.contains (ctx.src.text f) }

/-- The call site of a call expression. -/
def siteWithin (s : Surroundings) (call : Node) : Option CallSite :=
  match call.child? "function" with
  | none => some (ctx.siteOf s call none)
  | some f => (ctx.resolveWithin turns s.scope s.aliases f).map (ctx.siteOf s call)

/-! ## The names of a `with` statement -/

/-- The name that an item gives to what is called, and the name of what is called. -/
def factoryOf? (item : Node) : Option (String × String) := do
  guard (item.kind == "with_item")
  let value ← item.child? "value"
  guard (value.kind == "as_pattern")
  let expression ← value.contents.head?
  let bound := ctx.src.text (← value.child? "alias")
  guard (expression.kind == "call" && Text.isIdentifier bound)
  let factory ← expression.callee? ctx.src
  return (bound, factory)

def itemWithin (scope : Option Symbol) (item : Node) : Option (Option (String × String)) :=
  match ctx.factoryOf? item with
  | none => some none
  | some named =>
    (ctx.importWithin turns scope (Text.firstPart named.2)).map
      (Option.bind · fun entry => some (named.1, entry.originModule))

def itemsWithin (scope : Option Symbol) : List Node → Option Aliases
  | [] => some []
  | item :: items =>
    (ctx.itemWithin turns scope item).bind fun found =>
      (itemsWithin scope items).map (found.toList ++ ·)

/-- What a `with` statement binds, the latest first. -/
def aliasesWithin (scope : Option Symbol) (statement : Node) : Option Aliases :=
  let clauses := statement.contents.filter fun c => c.kind == "with_clause"
  (ctx.itemsWithin turns scope (clauses.flatMap Node.contents)).map List.reverse

/-! ## The nodes that wait -/

end CallContext

/-- A node that waits, with what holds at it. -/
structure Task where
  node : Node
  surroundings : Surroundings := {}

/-- The nodes that wait, the next one first, and the calls noted so far. -/
structure Worklist where
  waiting : List Task
  noted : List (CallSite × Node) := []

def Worklist.work (w : Worklist) : Nat :=
  (w.waiting.flatMap fun t => t.node.preorder).length

namespace CallContext

variable (ctx : CallContext) (turns : Nat)

/-- The children of a node wait in its place; those in the body of a `with` statement see the names that
are bound. -/
def expand (bound : Aliases) (t : Task) : List Task :=
  let s : Surroundings := { t.surroundings with above := t.node :: t.surroundings.above }
  if isPlainDefinition t.node.kind then
    match ctx.symbolAt.get? t.node.start with
    | some symbol =>
      t.node.children.map fun c =>
        if c.isBodyOf t.node then ⟨c, { s with scope := some symbol }⟩ else ⟨c, s⟩
    | none => t.node.children.map fun c => ⟨c, s⟩
  else if t.node.kind == "with_statement" then
    t.node.children.map fun c =>
      if c.isBodyOf t.node then ⟨c, { s with aliases := bound ++ s.aliases }⟩ else ⟨c, s⟩
  else t.node.children.map fun c => ⟨c, s⟩

def expandWithin (t : Task) : Option (List Task) :=
  if t.node.kind == "with_statement" then
    (ctx.aliasesWithin turns t.surroundings.scope t.node).map (ctx.expand · t)
  else some (ctx.expand [] t)

/-- A call is noted. -/
def noteWithin (t : Task) : Option (List (CallSite × Node)) :=
  if t.node.kind == "call" then
    (ctx.siteWithin turns t.surroundings t.node).map fun site => [(site, t.node)]
  else some []

/-- The calls noted when no node waits any more, after so many steps at most. -/
def runWithin : (steps : Nat) → Worklist → Option (List (CallSite × Node))
  | _, ⟨[], noted⟩ => some noted
  | 0, ⟨_ :: _, _⟩ => none
  | steps + 1, ⟨t :: rest, noted⟩ =>
    (ctx.noteWithin turns t).bind fun sites =>
      (ctx.expandWithin turns t).bind fun below => runWithin steps ⟨below ++ rest, noted ++ sites⟩

/-- The calls of a tree, each with its node, if no loop makes more than so many turns. -/
def extractWithin (root : Node) : Option (List (CallSite × Node)) :=
  ctx.runWithin turns turns ⟨[⟨root, {}⟩], []⟩

/-- The turns that are enough for every loop: one for each name and one more, and one for each node. -/
def turnsFor (root : Node) : Nat :=
  max (ctx.index.byName.entries.length + 1) root.preorder.length

/-- The way outward from every scope of the file ends. -/
def ScopesEnd : Prop :=
  ∀ start s, ctx.symbolAt.get? start = some s → ctx.index.Ends (some s)

variable {ctx turns}

/-! ## Every look-up -/

section LookUp

variable {scope : Option Symbol}

/-- The loops have turns enough from a scope on. -/
abbrev EndsWithin (ctx : CallContext) (turns : Nat) (scope : Option Symbol) : Prop :=
  ctx.index.Ends scope ∧ ctx.index.byName.entries.length < turns

theorem settles_thenLook {α : Type} {ends : Prop} {first second : Option (Option α)}
    {found found' : Option α} (h : Settles ends first found) (h' : Settles ends second found') :
    Settles ends (thenLook first second) (found <|> found') := by
  refine h.bind ?_
  cases found with
  | none => exact h'
  | some a => exact .pure (some a)

theorem settles_enclosing (receiver : Option String) :
    Settles (ctx.EndsWithin turns scope) ((ScopeLoop.enclosing receiver).run ctx.index turns [] scope)
      (enclosingMethod? receiver [] (ctx.index.scopeChain scope)) := by
  rw [← ScopeLoop.along_enclosing]
  exact (ScopeLoop.steady_enclosing receiver).settles turns [] scope

theorem settles_importWithin (name : String) :
    Settles (ctx.EndsWithin turns scope) (ctx.importWithin turns scope name)
      (ctx.importOf? (ctx.index.scopeChain scope) name) := by
  rw [← ScopeLoop.along_imported]
  exact (ScopeLoop.steady_imported ctx name).settles turns () scope

theorem settles_receiverWithin (receiver : Node) :
    Settles (ctx.EndsWithin turns scope) (ctx.receiverWithin turns scope receiver)
      (ctx.receiverMethod? (ctx.index.scopeChain scope) receiver) := by
  unfold receiverWithin receiverMethod?
  split
  · exact (settles_enclosing _).map _
  split
  · exact (settles_enclosing _).map _
  · exact .pure none

theorem settles_selfWithin (function : Node) :
    Settles (ctx.EndsWithin turns scope) (ctx.selfWithin turns scope function)
      (ctx.resolveSelf? (ctx.index.scopeChain scope) function) := by
  unfold selfWithin resolveSelf?
  split
  · cases function.child? "object" with
    | none => exact .pure none
    | some receiver =>
        cases function.child? "attribute" with
        | none => exact .pure none
        | some member => exact (settles_receiverWithin receiver).map _
  · exact .pure none

theorem settles_sameFileWithin (function : Node) :
    Settles (ctx.EndsWithin turns scope) (ctx.sameFileWithin turns scope function)
      (ctx.resolveSameFile? (ctx.index.scopeChain scope) function) := by
  unfold sameFileWithin resolveSameFile?
  split
  · rw [← ScopeLoop.along_sameFile]
    exact ((ScopeLoop.steady_sameFile ctx _).settles turns true scope).map _
  · exact .pure none

theorem settles_importedWithin (aliases : Aliases) (function : Node) :
    Settles (ctx.EndsWithin turns scope) (ctx.importedWithin turns scope aliases function)
      (ctx.resolveImported? (ctx.index.scopeChain scope) aliases function) := by
  unfold importedWithin resolveImported?
  cases dottedName? ctx.src function with
  | none => exact .pure none
  | some name =>
      simp only [Option.bind_eq_bind, Option.bind_some]
      cases aliases.lookup (Text.firstPart name) with
      | some module => exact .pure _
      | none => exact (settles_importWithin (Text.firstPart name)).map _

theorem settles_resolveWithin (aliases : Aliases) (function : Node) :
    Settles (ctx.EndsWithin turns scope) (ctx.resolveWithin turns scope aliases function)
      (ctx.resolve? (ctx.index.scopeChain scope) aliases function) :=
  settles_thenLook (settles_selfWithin function)
    (settles_thenLook (settles_sameFileWithin function) (settles_importedWithin aliases function))

theorem aliasOfItem?_eq (chain : List Symbol) (item : Node) :
    ctx.aliasOfItem? chain item =
      (ctx.factoryOf? item).bind fun named =>
        (ctx.importOf? chain (Text.firstPart named.2)).bind fun entry =>
          some (named.1, entry.originModule) := by
  simp only [aliasOfItem?, factoryOf?, Option.bind_eq_bind, Option.bind_assoc]
  rfl

theorem settles_itemWithin (item : Node) :
    Settles (ctx.EndsWithin turns scope) (ctx.itemWithin turns scope item)
      (ctx.aliasOfItem? (ctx.index.scopeChain scope) item) := by
  rw [aliasOfItem?_eq, itemWithin]
  cases ctx.factoryOf? item with
  | none => exact .pure none
  | some named => exact (settles_importWithin (Text.firstPart named.2)).map _

theorem settles_itemsWithin (items : List Node) :
    Settles (ctx.EndsWithin turns scope) (ctx.itemsWithin turns scope items)
      (items.filterMap (ctx.aliasOfItem? (ctx.index.scopeChain scope))) := by
  induction items with
  | nil => exact .pure []
  | cons item items ih =>
      have hfound : (item :: items).filterMap (ctx.aliasOfItem? (ctx.index.scopeChain scope)) =
          (ctx.aliasOfItem? (ctx.index.scopeChain scope) item).toList ++
            items.filterMap (ctx.aliasOfItem? (ctx.index.scopeChain scope)) := by
        rw [List.filterMap_cons]
        cases ctx.aliasOfItem? (ctx.index.scopeChain scope) item <;> rfl
      rw [hfound]
      exact (settles_itemWithin item).bind (ih.map _)

theorem settles_aliasesWithin (statement : Node) :
    Settles (ctx.EndsWithin turns scope) (ctx.aliasesWithin turns scope statement)
      (ctx.aliasesOf (ctx.index.scopeChain scope) statement) :=
  (settles_itemsWithin _).map List.reverse

theorem callSite_eq_siteOf (s : Surroundings) (call : Node) :
    ctx.callSite s call =
      ctx.siteOf s call ((call.child? "function").bind
        (ctx.resolve? (ctx.index.scopeChain s.scope) s.aliases)) := by
  unfold callSite siteOf bareSite
  cases call.child? "function" with
  | none => rfl
  | some f =>
      dsimp only [Option.bind_some]
      cases ctx.resolve? (ctx.index.scopeChain s.scope) s.aliases f <;> rfl

theorem settles_siteWithin (s : Surroundings) (call : Node) :
    Settles (ctx.EndsWithin turns s.scope) (ctx.siteWithin turns s call) (ctx.callSite s call) := by
  rw [callSite_eq_siteOf, siteWithin]
  cases call.child? "function" with
  | none => exact .pure _
  | some f => exact (settles_resolveWithin s.aliases f).map _

end LookUp

/-! ## A step and a run -/

/-- Outside of `with` statements it makes no difference what they bind. -/
theorem expand_of_kind {t : Task} (h : t.node.kind ≠ "with_statement") (bound bound' : Aliases) :
    ctx.expand bound t = ctx.expand bound' t := by
  simp only [expand, beq_iff_eq, h, if_false]

theorem expand_eq (t : Task) :
    ctx.expand (ctx.aliasesOf (ctx.index.scopeChain t.surroundings.scope) t.node) t =
      t.node.children.map fun c => ⟨c, ctx.enter t.surroundings t.node c⟩ := by
  unfold expand
  cases hd : isPlainDefinition t.node.kind with
  | true =>
      have hw := kind_ne_with_of_isPlainDefinition hd
      cases hs : ctx.symbolAt.get? t.node.start with
      | none =>
          refine List.map_congr_left fun c _ => ?_
          rw [ctx.enter_elsewhere (fun _ _ => hs) (fun h => absurd h hw)]
      | some symbol =>
          refine List.map_congr_left fun c _ => ?_
          cases hb : c.isBodyOf t.node with
          | true => rw [ctx.enter_definitionBody hd hb hs, if_pos rfl]
          | false => rw [ctx.enter_elsewhere (by simp [hb]) (fun _ => hb), if_neg (by simp)]
  | false =>
      by_cases hw : t.node.kind = "with_statement"
      · simp only [Bool.false_eq_true, if_false, hw, beq_self_eq_true, if_true]
        refine List.map_congr_left fun c _ => ?_
        cases hb : c.isBodyOf t.node with
        | true => rw [ctx.enter_withBody hw hb, if_pos rfl]
        | false => rw [ctx.enter_elsewhere (by simp [hb]) (fun _ => hb), if_neg (by simp)]
      · simp only [Bool.false_eq_true, if_false, beq_iff_eq, hw]
        refine List.map_congr_left fun c _ => ?_
        rw [ctx.enter_elsewhere (by simp [hd]) (fun h => absurd h hw)]

theorem settles_expandWithin (t : Task) :
    Settles (ctx.EndsWithin turns t.surroundings.scope) (ctx.expandWithin turns t)
      (t.node.children.map fun c => ⟨c, ctx.enter t.surroundings t.node c⟩) := by
  rw [← expand_eq, expandWithin]
  split
  · exact (settles_aliasesWithin t.node).map _
  · rename_i hkind
    rw [expand_of_kind (fun h => hkind (beq_iff_eq.mpr h))
      (ctx.aliasesOf (ctx.index.scopeChain t.surroundings.scope) t.node) []]
    exact .pure _

/-- The call that a node is. -/
def note (ctx : CallContext) (t : Task) : List (CallSite × Node) :=
  if t.node.kind == "call" then [(ctx.callSite t.surroundings t.node, t.node)] else []

theorem settles_noteWithin (t : Task) :
    Settles (ctx.EndsWithin turns t.surroundings.scope) (ctx.noteWithin turns t) (ctx.note t) := by
  unfold noteWithin note
  split
  · exact (settles_siteWithin t.surroundings t.node).map _
  · exact .pure []

/-- The calls noted and those still to be met below the nodes that wait. -/
def outcome (ctx : CallContext) (w : Worklist) : List (CallSite × Node) :=
  w.noted ++ w.waiting.flatMap fun t => ctx.callsFrom t.surroundings t.node

theorem callsAmong_eq_flatMap (s : Surroundings) (parent : Node) (cs : List Node) :
    ctx.callsAmong s parent cs = cs.flatMap fun c => ctx.callsFrom (ctx.enter s parent c) c := by
  induction cs with
  | nil => rfl
  | cons c cs ih => rw [callsAmong, ih, List.flatMap_cons]

theorem callsFrom_eq (t : Task) :
    ctx.callsFrom t.surroundings t.node =
      ctx.note t ++
        t.node.children.flatMap fun c => ctx.callsFrom (ctx.enter t.surroundings t.node c) c := by
  obtain ⟨⟨l, cs⟩, s⟩ := t
  rw [callsFrom, callsAmong_eq_flatMap, note]
  cases hk : l.kind == "call" <;> simp [Node.kind, hk]

/-- A step changes nothing in the outcome. -/
theorem outcome_step (t : Task) (rest : List Task) (noted : List (CallSite × Node)) :
    ctx.outcome
        ⟨(t.node.children.map fun c => ⟨c, ctx.enter t.surroundings t.node c⟩) ++ rest,
          noted ++ ctx.note t⟩ =
      ctx.outcome ⟨t :: rest, noted⟩ := by
  simp only [outcome, List.flatMap_append, List.flatMap_map, List.flatMap_cons, callsFrom_eq t,
    List.append_assoc]

theorem work_step (t : Task) (rest : List Task) (noted noted' : List (CallSite × Node)) :
    Worklist.work ⟨(t.node.children.map fun c => ⟨c, ctx.enter t.surroundings t.node c⟩) ++ rest,
        noted'⟩ + 1 = Worklist.work ⟨t :: rest, noted⟩ := by
  simp only [Worklist.work, List.flatMap_append, List.flatMap_map, List.flatMap_cons,
    Node.preorder_eq t.node, List.cons_append, List.length_cons]

theorem ScopesEnd.enter (h : ctx.ScopesEnd) {s : Surroundings} (hs : ctx.index.Ends s.scope)
    (parent child : Node) : ctx.index.Ends (ctx.enter s parent child).scope := by
  rcases ctx.step_cases parent child with ⟨symbol, hd, hb, hsymbol⟩ | ⟨hw, hb⟩ | ⟨hdef, hwith⟩
  · rw [ctx.enter_definitionBody hd hb hsymbol]
    exact h _ _ hsymbol
  · rw [ctx.enter_withBody hw hb]
    exact hs
  · rw [ctx.enter_elsewhere hdef hwith]
    exact hs

/-- What the run finds is the outcome. It ends if there are turns enough, and steps enough for the nodes
that are left. -/
theorem settles_runWithin (steps : Nat) (w : Worklist) :
    Settles (ctx.ScopesEnd ∧ ctx.index.byName.entries.length < turns ∧
        (∀ t ∈ w.waiting, ctx.index.Ends t.surroundings.scope) ∧ w.work ≤ steps)
      (ctx.runWithin turns steps w) (ctx.outcome w) := by
  induction steps generalizing w with
  | zero =>
      obtain ⟨_ | ⟨t, rest⟩, noted⟩ := w
      · rw [outcome, List.flatMap_nil, List.append_nil]
        exact .pure noted
      · refine ⟨nofun, fun hends => ?_⟩
        have hwork := @work_step ctx t rest noted noted
        omega
  | succ steps ih =>
      obtain ⟨_ | ⟨t, rest⟩, noted⟩ := w
      · rw [outcome, List.flatMap_nil, List.append_nil]
        exact .pure noted
      · rw [← outcome_step]
        have hwithin : (ctx.ScopesEnd ∧ ctx.index.byName.entries.length < turns ∧
            (∀ u ∈ t :: rest, ctx.index.Ends u.surroundings.scope) ∧
              Worklist.work ⟨t :: rest, noted⟩ ≤ steps + 1) →
            ctx.EndsWithin turns t.surroundings.scope :=
          fun h => ⟨h.2.2.1 t List.mem_cons_self, h.2.1⟩
        refine ((settles_noteWithin t).mono hwithin).bind
          (((settles_expandWithin t).mono hwithin).bind ((ih _).mono ?_))
        rintro ⟨hends, hturns, hwaiting, hwork⟩
        refine ⟨hends, hturns, fun u hu => ?_, ?_⟩
        · rcases List.mem_append.mp hu with hu | hu
          · obtain ⟨c, _, rfl⟩ := List.mem_map.mp hu
            exact hends.enter (hwaiting t List.mem_cons_self) t.node c
          · exact hwaiting u (List.mem_cons_of_mem t hu)
        · have hstep := @work_step ctx t rest noted (noted ++ ctx.note t)
          omega

/-! ## Runs that do not end -/

/-- A call whose loops do not end holds the run up. -/
theorem runWithin_of_note {t : Task} (h : ctx.noteWithin turns t = none) (rest : List Task)
    (noted : List (CallSite × Node)) (steps : Nat) :
    ctx.runWithin turns steps ⟨t :: rest, noted⟩ = none := by
  cases steps with
  | zero => rfl
  | succ steps => rw [runWithin, h, Option.bind_none]

theorem noteWithin_of_resolve {t : Task} {f : Node} (hkind : t.node.kind = "call")
    (hfunction : t.node.child? "function" = some f)
    (h : ctx.resolveWithin turns t.surroundings.scope t.surroundings.aliases f = none) :
    ctx.noteWithin turns t = none := by
  rw [noteWithin, if_pos (beq_iff_eq.mpr hkind), siteWithin, hfunction]
  dsimp only
  rw [h, Option.map_none, Option.map_none]

theorem runWithin_of_next {t : Task} {sites noted : List (CallSite × Node)} {below rest : List Task}
    (hnote : ctx.noteWithin turns t = some sites) (hbelow : ctx.expandWithin turns t = some below)
    (h : ∀ steps, ctx.runWithin turns steps ⟨below ++ rest, noted ++ sites⟩ = none) (steps : Nat) :
    ctx.runWithin turns steps ⟨t :: rest, noted⟩ = none := by
  cases steps with
  | zero => rfl
  | succ steps =>
      rw [runWithin, hnote, hbelow]
      exact h steps

/-! ## The whole tree -/

/-- On whatever table, the calls that the loops find are the calls of the tree. They find them if the ways
outward end. -/
theorem settles_extractWithin (ctx : CallContext) (turns : Nat) (root : Node) :
    Settles (ctx.ScopesEnd ∧ ctx.turnsFor root ≤ turns) (ctx.extractWithin turns root)
      (ctx.calls root) := by
  have hrun := @settles_runWithin ctx turns turns ⟨[⟨root, {}⟩], []⟩
  have houtcome : ctx.outcome ⟨[⟨root, {}⟩], []⟩ = ctx.calls root := by simp [outcome, calls]
  rw [houtcome] at hrun
  refine hrun.mono fun hends => ?_
  obtain ⟨hnames, hnodes⟩ := Nat.max_le.mp hends.2
  refine ⟨hends.1, hnames, ?_, by simpa [Worklist.work] using hnodes⟩
  intro t ht
  rw [List.mem_singleton.mp ht]
  exact ⟨[], .module⟩

end CallContext

/-- The ways outward end in every file. -/
theorem scopesEnd_fileContext (faults : Faults) (file : String) (src : Source) (root : Node) :
    (fileContext faults file src root).ScopesEnd := by
  intro start s hs
  have hmem : s ∈ fileSymbols faults file src root := List.mem_map.mpr ⟨_, mem_of_symbolAt hs, rfl⟩
  refine ⟨_, (SymbolIndex.outward_iff fileSymbols_nest fun t ht => ?_).mpr rfl⟩
  cases ht
  exact hmem

end SourceFacts
