import Mathlib.Data.List.Forall2
import SourceFacts.Proofs.Call.Scope
import SourceFacts.Proofs.Import.Binding

/-!
# The imports of functions

The bindings made in the body of a function are kept under its qualified name. Of several functions of
one name the last one that imports something counts for all of them; where no other definition of the
name gets in the way, a name stands for what the function itself, or else the functions around it, or
else the module imports.
-/

namespace SourceFacts

open Definitions

/-! ## Contexts that differ in the imports of functions -/

namespace CallContext

variable (ctx : CallContext) (maps : Dictionary String ImportMap)

variable {chain : List Symbol}
  (h : ∀ name, { ctx with localImports := maps }.importOf? chain name = ctx.importOf? chain name)

include h

theorem aliasesOf_congr (w : Node) :
    { ctx with localImports := maps }.aliasesOf chain w = ctx.aliasesOf chain w := by
  have himport : { ctx with localImports := maps }.importOf? chain = ctx.importOf? chain := funext h
  have hitem : { ctx with localImports := maps }.aliasOfItem? chain = ctx.aliasOfItem? chain := by
    unfold aliasOfItem?
    rw [himport]
  unfold aliasesOf
  rw [hitem]

theorem resolve?_congr (aliases : Aliases) (f : Node) :
    { ctx with localImports := maps }.resolve? chain aliases f = ctx.resolve? chain aliases f := by
  have himported : { ctx with localImports := maps }.resolveImported? chain aliases f =
      ctx.resolveImported? chain aliases f := by
    unfold resolveImported?
    simp only [h]
  unfold resolve?
  rw [himported]
  rfl

omit h in
theorem surroundingsAt_congr {n : Node} {above : List Node}
    (h : ∀ inner parent outer, above = inner ++ parent :: outer → ∀ name,
      { ctx with localImports := maps }.importOf?
          (ctx.index.scopeChain (ctx.surroundingsAt parent outer).scope) name =
        ctx.importOf? (ctx.index.scopeChain (ctx.surroundingsAt parent outer).scope) name) :
    { ctx with localImports := maps }.surroundingsAt n above = ctx.surroundingsAt n above := by
  induction above generalizing n with
  | nil => rfl
  | cons parent above ih =>
      have hparent : { ctx with localImports := maps }.surroundingsAt parent above =
          ctx.surroundingsAt parent above :=
        ih fun inner p outer heq => h (parent :: inner) p outer (congrArg (parent :: ·) heq)
      have haliases := aliasesOf_congr ctx maps (h [] parent above rfl) parent
      rw [surroundingsAt, surroundingsAt, hparent]
      unfold enter
      simp only [haliases]

omit h in
theorem callSite_congr {s : Surroundings} {call : Node}
    (h : ∀ name, { ctx with localImports := maps }.importOf? (ctx.index.scopeChain s.scope) name =
      ctx.importOf? (ctx.index.scopeChain s.scope) name) :
    { ctx with localImports := maps }.callSite s call = ctx.callSite s call := by
  unfold callSite
  simp only [resolve?_congr ctx maps h]

end CallContext

/-! ## The imports that are kept under a name -/

section File

variable (faults : Faults) (file : String) (src : Source) (root : Node)

/-- The functions of a qualified name whose bodies import something, in pre-order. -/
def importers (name : String) : List Node :=
  root.functions.filter fun g =>
    !(ownImports src file g).isEmpty &&
      ((fileContext faults file src root).symbolAt.get? g.start).any fun s =>
        s.qualifiedName == name

/-- The bindings by qualified name of the functions at some offsets. -/
def keptImports (keep : Nat → Bool) : Dictionary String ImportMap :=
  localImportsByName (fileDefinitions faults file src root).byOffset
    ⟨(fileImports faults file src root).localMaps.entries.filter fun e => keep e.1⟩

/-- What the calls are resolved against when only the functions at some offsets import something. -/
def contextKeeping (keep : Nat → Bool) : CallContext :=
  { fileContext faults file src root with localImports := keptImports faults file src root keep }

theorem contextKeeping_all :
    contextKeeping faults file src root (fun _ => true) = fileContext faults file src root := by
  unfold contextKeeping keptImports
  rw [List.filter_true]
  rfl

variable {faults file src root}

theorem isPlainDefinition_of_mem_functions {g : Node} (hg : g ∈ root.functions) :
    isPlainDefinition g.kind = true := by
  have hkind : g.kind = "function_definition" := by simpa using (List.mem_filter.mp hg).2
  rw [hkind]
  rfl

theorem nodup_starts_functions (h : DistinctStarts root) :
    (root.functions.map Node.start).Nodup := by
  have hplain : root.functions.filter (fun n => isPlainDefinition n.kind) = root.functions :=
    List.filter_eq_self.mpr fun g hg => isPlainDefinition_of_mem_functions hg
  rw [← hplain]
  exact h.sublist ((List.filter_sublist.filter _).map _)

theorem entries_localMaps (himports : faults .imports = none) (h : DistinctStarts root) :
    (fileImports faults file src root).localMaps.entries =
      (root.functions.map fun f => (f.start, ownImports src file f)).filter
        fun e => !e.2.isEmpty := by
  rw [fileImports, Faults.run_of_none himports, localMaps_ofTree]
  refine Dictionary.entries_ofList (List.Nodup.sublist (List.filter_sublist.map _) ?_)
  rw [List.map_map]
  exact nodup_starts_functions h

/-- Of the functions of a name that import something, the last one counts. -/
theorem localImports_contextKeeping (himports : faults .imports = none) (h : DistinctStarts root)
    (keep : Nat → Bool) (name : String) :
    (contextKeeping faults file src root keep).localImports.get? name =
      ((importers faults file src root name).filter fun g => keep g.start).getLast?.map
        (ownImports src file) := by
  unfold contextKeeping keptImports localImportsByName importers
  rw [Dictionary.get?_ofList, entries_localMaps himports h, ← List.getLast?_map, ← List.getLast?_map]
  congr 1
  -- Both sides pass over a function that imports nothing, is not kept or has another name.
  induction root.functions with
  | nil => rfl
  | cons g rest ih =>
      cases hown : (ownImports src file g).isEmpty with
      | true => simpa [hown] using ih
      | false =>
          cases hkeep : keep g.start with
          | false => simpa [hown, hkeep] using ih
          | true =>
              cases hs : (fileContext faults file src root).symbolAt.get? g.start with
              | none =>
                  have hs' : (fileDefinitions faults file src root).byOffset.get? g.start = none := hs
                  simpa [hown, hkeep, hs, hs'] using ih
              | some s =>
                  have hs' : (fileDefinitions faults file src root).byOffset.get? g.start = some s := hs
                  by_cases hname : s.qualifiedName = name
                  · simpa [hown, hkeep, hs, hs', hname] using ih
                  · simpa [hown, hkeep, hs, hs', hname] using ih

/-! ## Definitions that prevail -/

variable (faults file src root)

/-- The definition prevails under its qualified name: the function whose imports are kept there, if
there is one, is the definition itself, and the name leads to its own parent. -/
def Prevails (d : Node) : Prop :=
  ∀ s, (d.start, s) ∈ (fileDefinitions faults file src root).symbols →
    (∀ g, (importers faults file src root s.qualifiedName).getLast? = some g → g = d) ∧
      ∀ t, (fileContext faults file src root).index.get? (some s.qualifiedName) = some t →
        t.parent = s.parent

def AllPrevail (ns : List Node) : Prop :=
  ∀ d ∈ ns, isPlainDefinition d.kind = true → Prevails faults file src root d

/-- The symbol has the qualified name of the definition, which stands in the tree. -/
def Names (d : Node) (t : Symbol) : Prop :=
  isPlainDefinition d.kind = true ∧ (∃ above, root.At d above) ∧
    ∃ s, (d.start, s) ∈ (fileDefinitions faults file src root).symbols ∧
      t.qualifiedName = s.qualifiedName

variable {faults file src root}

theorem AllPrevail.subset {ns ms : List Node} (h : AllPrevail faults file src root ns)
    (hsub : ∀ d ∈ ms, d ∈ ns) : AllPrevail faults file src root ms :=
  fun d hd => h d (hsub d hd)

theorem ownImports_of_importers_nil (h : DistinctStarts root) {d : Node} {above : List Node}
    {s : Symbol} (hat : root.At d above)
    (hs : (d.start, s) ∈ (fileDefinitions faults file src root).symbols)
    (hnil : importers faults file src root s.qualifiedName = []) (name : String) :
    (if d.kind = "function_definition" then (ownImports src file d).get? name else none) = none := by
  split
  · rename_i hkind
    cases hown : (ownImports src file d).isEmpty with
    | true => exact ImportMap.get?_of_isEmpty hown name
    | false =>
        have hmem : d ∈ importers faults file src root s.qualifiedName := by
          refine List.mem_filter.mpr ⟨List.mem_filter.mpr ⟨hat.mem_preorder, by simp [hkind]⟩, ?_⟩
          simp [hown, symbolAt_of_mem h hs]
        rw [hnil] at hmem
        exact absurd hmem List.not_mem_nil
  · rfl

theorem localImports_fileContext (himports : faults .imports = none) (h : DistinctStarts root)
    (name : String) :
    (fileContext faults file src root).localImports.get? name =
      (importers faults file src root name).getLast?.map (ownImports src file) := by
  rw [← contextKeeping_all faults file src root,
    localImports_contextKeeping himports h (fun _ => true) name, List.filter_true]

/-- A definition sees its own imports under its name exactly when the function whose imports are kept
there binds every name as it does. -/
theorem own_iff_last_importer (himports : faults .imports = none) (h : DistinctStarts root)
    {d : Node} {above : List Node} {s : Symbol} (hat : root.At d above)
    (hs : (d.start, s) ∈ (fileDefinitions faults file src root).symbols) :
    (∀ name, ((fileContext faults file src root).localImports.get? s.qualifiedName).bind
        (·.get? name) =
      if d.kind = "function_definition" then (ownImports src file d).get? name else none) ↔
    ∀ g, (importers faults file src root s.qualifiedName).getLast? = some g →
      ∀ name, (ownImports src file g).get? name =
        if d.kind = "function_definition" then (ownImports src file d).get? name else none := by
  rw [localImports_fileContext himports h]
  cases hlast : (importers faults file src root s.qualifiedName).getLast? with
  | none =>
      have hnil := List.getLast?_eq_none_iff.mp hlast
      simp [ownImports_of_importers_nil h hat hs hnil]
  | some g =>
      constructor
      · intro hown g' heq
        cases heq
        exact hown
      · intro hg
        exact hg g rfl

theorem localImports_of_prevails (himports : faults .imports = none) (h : DistinctStarts root)
    {keep : Nat → Bool} {d : Node} {t : Symbol} (ht : Names faults file src root d t)
    (hd : Prevails faults file src root d) (hkeep : keep d.start = true) (name : String) :
    ((contextKeeping faults file src root keep).localImports.get? t.qualifiedName).bind
        (·.get? name) =
      if d.kind = "function_definition" then (ownImports src file d).get? name else none := by
  obtain ⟨_, ⟨above, hat⟩, s, hs, hname⟩ := ht
  rw [localImports_contextKeeping himports h, hname]
  cases hlast : (importers faults file src root s.qualifiedName).getLast? with
  | none =>
      have hnil := List.getLast?_eq_none_iff.mp hlast
      rw [ownImports_of_importers_nil h hat hs hnil, hnil]
      rfl
  | some g =>
      obtain rfl := (hd s hs).1 g hlast
      have hkind : g.kind = "function_definition" := by
        have hfunction := (List.mem_filter.mp (List.mem_of_getLast? hlast)).1
        simpa using (List.mem_filter.mp hfunction).2
      obtain ⟨before, hbefore⟩ := List.getLast?_eq_some_iff.mp hlast
      rw [hbefore, if_pos hkind]
      simp [hkeep]

/-- Where no two symbols share a qualified name, every definition prevails. -/
theorem prevails_of_nodup (h : DistinctStarts root)
    (hnames : ((fileSymbols faults file src root).map (·.qualifiedName)).Nodup) {d : Node}
    {above : List Node} (hd : isPlainDefinition d.kind = true) (hat : root.At d above) :
    Prevails faults file src root d := by
  rw [fileSymbols, List.map_map] at hnames
  intro s hs
  constructor
  · intro g hg
    obtain ⟨hfunction, hcond⟩ := List.mem_filter.mp (List.mem_of_getLast? hg)
    simp only [Bool.and_eq_true, Option.any_eq_true, beq_iff_eq] at hcond
    obtain ⟨_, t, ht, hname⟩ := hcond
    have heq := List.inj_on_of_nodup_map hnames (mem_of_symbolAt ht) hs hname
    obtain ⟨place, hplace⟩ := Node.exists_at_of_mem_preorder (List.mem_filter.mp hfunction).1
    exact (h.place_unique (isPlainDefinition_of_mem_functions hfunction) hd hplace hat
      (congrArg Prod.fst heq)).1
  · intro t ht
    obtain ⟨htmem, htname⟩ := SymbolIndex.mem_of_get? ht
    obtain ⟨e, he, rfl⟩ := List.mem_map.mp htmem
    have heq := List.inj_on_of_nodup_map hnames he hs (Option.some.inj htname).symm
    rw [heq]

/-! ## Chains of definitions that prevail -/

theorem forall₂_names_scopeChain {outer : List Node}
    {parent : Option Symbol}
    (hl : Lineage src root (fileDefinitions faults file src root).symbols outer parent)
    (hprevail : AllPrevail faults file src root outer) :
    List.Forall₂ (Names faults file src root) outer
      ((fileContext faults file src root).index.scopeChain
        ((fileContext faults file src root).index.get? (parent.map (·.qualifiedName)))) := by
  induction hl with
  | module => exact .nil
  | @inside outer parent d s p hl hin hplain hs hmade hp ih =>
      have hname : p.qualifiedName = s.qualifiedName := by rw [hp]
      have hmem : s ∈ fileSymbols faults file src root := List.mem_map.mpr ⟨_, hs, rfl⟩
      obtain ⟨t, ht⟩ := SymbolIndex.exists_get? hmem
      obtain ⟨htmem, htname⟩ := SymbolIndex.mem_of_get? ht
      -- The name may lead to a later definition, whose chain goes on from the same parent.
      have hqualified : t.qualifiedName = s.qualifiedName := (Option.some.inj htname).symm
      have hparent : t.parent = s.parent := (hprevail d List.mem_cons_self hplain s hs).2 t ht
      obtain ⟨above, hat, _⟩ := hin.at
      have hget : (fileContext faults file src root).index.get?
          ((some p).map (·.qualifiedName)) = some t := by
        rw [Option.map_some, hname]
        exact ht
      rw [hget, scopeChain_fileContext htmem, hparent, hmade.parent_eq]
      exact .cons ⟨hplain, ⟨above, hat⟩, s, hs, hqualified⟩
        (ih (hprevail.subset fun x hx => List.mem_cons_of_mem _ hx))

variable (faults file src root) in
/-- The definitions in whose bodies a node stands, the innermost first. That one has a symbol, and the
others are those in whose bodies it stands as a statement. -/
inductive EnclosedIn (n : Node) (above : List Node) : List Node → Prop where
  | module (hscope : (fileContext faults file src root).scopeNode? n above = none) :
      EnclosedIn n above []
  | definition {d : Node} {outer : List Node}
      (hscope : (fileContext faults file src root).scopeNode? n above = some d)
      (hin : StatementIn src root outer d) : EnclosedIn n above (d :: outer)

/-- The chain of scopes of a node goes through the definitions around it. -/
theorem exists_enclosedIn (h : DistinctStarts root) {n : Node} {above : List Node}
    (hat : root.At n above) (hprevail : AllPrevail faults file src root above) :
    ∃ around, EnclosedIn faults file src root n above around ∧ (∀ d ∈ around, d ∈ above) ∧
      List.Forall₂ (Names faults file src root) around
        ((fileContext faults file src root).index.scopeChain
          ((fileContext faults file src root).surroundingsAt n above).scope) := by
  cases hscope : (fileContext faults file src root).scopeNode? n above with
  | none =>
      refine ⟨[], .module hscope, by simp, ?_⟩
      rw [CallContext.scope_surroundingsAt, hscope, Option.bind_none, SymbolIndex.scopeChain_none]
      exact .nil
  | some d =>
      obtain ⟨hplain, ⟨s, hs⟩, inner, rest, rfl⟩ := CallContext.of_scopeNode? _ hscope
      have hentry := mem_of_symbolAt hs
      obtain ⟨outer, parent, hin, hl, hmade⟩ :=
        (originatesFrom_of_distinctStarts h hplain hat.of_append hentry).made
      -- The definition has one place only: the path to the node passes what its symbol is nested in.
      obtain ⟨place, hplace, hsub⟩ := hin.at
      obtain ⟨_, rfl⟩ := h.place_unique hplain hplain hat.of_append hplace rfl
      have hmem : ∀ x ∈ d :: outer, x ∈ inner ++ d :: rest := by
        intro x hx
        rcases List.mem_cons.mp hx with rfl | hx
        · simp
        · simp [hsub x hx]
      refine ⟨d :: outer, .definition hscope hin, hmem, ?_⟩
      have hsymbol : s ∈ fileSymbols faults file src root := List.mem_map.mpr ⟨_, hentry, rfl⟩
      rw [CallContext.scope_surroundingsAt, hscope, Option.bind_some, hs,
        scopeChain_fileContext hsymbol, hmade.parent_eq]
      exact .cons ⟨hplain, ⟨rest, hat.of_append⟩, s, hentry, rfl⟩
        (forall₂_names_scopeChain hl
          (hprevail.subset fun x hx => hmem x (List.mem_cons_of_mem _ hx)))

theorem importOf?_contextKeeping (himports : faults .imports = none) (h : DistinctStarts root)
    (keep : Nat → Bool) {around : List Node} {chain : List Symbol}
    (hnames : List.Forall₂ (Names faults file src root) around chain)
    (hprevail : AllPrevail faults file src root around)
    (hkeep : ∀ d ∈ around, keep d.start = true) (name : String) :
    (contextKeeping faults file src root keep).importOf? chain name =
      (((around.filter fun d => d.kind == "function_definition").findSome? fun d =>
        (ownImports src file d).get? name) <|>
          (fileContext faults file src root).imports.get? name) := by
  have hfind : chain.findSome? (fun t =>
      ((contextKeeping faults file src root keep).localImports.get? t.qualifiedName).bind
        (·.get? name)) =
      (around.filter fun d => d.kind == "function_definition").findSome? fun d =>
        (ownImports src file d).get? name := by
    induction hnames with
    | nil => rfl
    | @cons d t around chain ht _ ih =>
        -- A class answers nothing under its name, so only the functions are asked.
        have hlookup := localImports_of_prevails himports h ht
          (hprevail d List.mem_cons_self ht.1) (hkeep d List.mem_cons_self) name
        have hrest := ih (hprevail.subset fun x hx => List.mem_cons_of_mem _ hx)
          (fun x hx => hkeep x (List.mem_cons_of_mem _ hx))
        rw [List.findSome?_cons, hlookup, hrest]
        by_cases hkind : d.kind = "function_definition" <;> simp [hkind, List.findSome?_cons]
  unfold CallContext.importOf?
  rw [hfind]
  rfl

theorem importOf?_fileContext (himports : faults .imports = none) (h : DistinctStarts root)
    {around : List Node} {chain : List Symbol}
    (hnames : List.Forall₂ (Names faults file src root) around chain)
    (hprevail : AllPrevail faults file src root around) (name : String) :
    (fileContext faults file src root).importOf? chain name =
      (((around.filter fun d => d.kind == "function_definition").findSome? fun d =>
        (ownImports src file d).get? name) <|>
          (fileContext faults file src root).imports.get? name) := by
  have hkept := importOf?_contextKeeping himports h (fun _ => true) hnames hprevail
    (fun _ _ => rfl) name
  rwa [contextKeeping_all] at hkept

/-- What functions that are not above a node import changes nothing in the names that it sees. -/
theorem importOf?_contextKeeping_eq (himports : faults .imports = none) (h : DistinctStarts root)
    (keep : Nat → Bool) {n : Node} {above : List Node} (hat : root.At n above)
    (hprevail : AllPrevail faults file src root above)
    (hkeep : ∀ d ∈ above, keep d.start = true) (name : String) :
    (contextKeeping faults file src root keep).importOf?
        ((fileContext faults file src root).index.scopeChain
          ((fileContext faults file src root).surroundingsAt n above).scope) name =
      (fileContext faults file src root).importOf?
        ((fileContext faults file src root).index.scopeChain
          ((fileContext faults file src root).surroundingsAt n above).scope) name := by
  obtain ⟨around, _, hsub, hnames⟩ := exists_enclosedIn h hat hprevail
  rw [importOf?_contextKeeping himports h keep hnames (hprevail.subset hsub)
      (fun d hd => hkeep d (hsub d hd)),
    importOf?_fileContext himports h hnames (hprevail.subset hsub)]

theorem callSite_contextKeeping (himports : faults .imports = none) (h : DistinctStarts root)
    (keep : Nat → Bool) {n : Node} {above : List Node} (hat : root.At n above)
    (hprevail : AllPrevail faults file src root above)
    (hkeep : ∀ d ∈ above, keep d.start = true) :
    (contextKeeping faults file src root keep).callSite
        ((contextKeeping faults file src root keep).surroundingsAt n above) n =
      (fileContext faults file src root).callSite
        ((fileContext faults file src root).surroundingsAt n above) n := by
  have hsame : (contextKeeping faults file src root keep).surroundingsAt n above =
      (fileContext faults file src root).surroundingsAt n above := by
    refine CallContext.surroundingsAt_congr _ _ fun inner parent outer heq name => ?_
    have hsub : ∀ d ∈ outer, d ∈ above := fun d hd => by simp [heq, hd]
    exact importOf?_contextKeeping_eq himports h keep (heq ▸ hat).of_append
      (hprevail.subset hsub) (fun d hd => hkeep d (hsub d hd)) name
  rw [hsame]
  exact CallContext.callSite_congr _ _ (importOf?_contextKeeping_eq himports h keep hat hprevail hkeep)

end File

/-- The imports in the body of a function are kept under its qualified name, and of the functions of a
name the last one that imports something counts for all. So a definition sees its own imports under
its name exactly when that function binds every name as it does. Where the definitions above a call
prevail under their names, a name at the call stands for what the innermost function around it
imports, else the next one, else the module; and dropping the imports of all functions that are not
above the call changes nothing in what it is resolved to. -/
theorem localImports_of_functions (faults : Faults) (file : String) (src : Source) (root : Node)
    (himports : faults .imports = none) (hdistinct : DistinctStarts root) :
    (∀ name, (fileContext faults file src root).localImports.get? name =
      (importers faults file src root name).getLast?.map (ownImports src file)) ∧
    (∀ d above s, root.At d above →
      (d.start, s) ∈ (fileDefinitions faults file src root).symbols →
      let own (name : String) : Option Import :=
        if d.kind = "function_definition" then (ownImports src file d).get? name else none
      ((∀ name, ((fileContext faults file src root).localImports.get? s.qualifiedName).bind
          (·.get? name) = own name) ↔
        ∀ g, (importers faults file src root s.qualifiedName).getLast? = some g →
          ∀ name, (ownImports src file g).get? name = own name)) ∧
    ∀ n above, root.At n above → AllPrevail faults file src root above →
      (∃ around, EnclosedIn faults file src root n above around ∧ (∀ d ∈ around, d ∈ above) ∧
        ∀ name,
          (fileContext faults file src root).importOf?
              ((fileContext faults file src root).index.scopeChain
                ((fileContext faults file src root).surroundingsAt n above).scope) name =
            (((around.filter fun d => d.kind == "function_definition").findSome? fun d =>
              (ownImports src file d).get? name) <|>
                (fileContext faults file src root).imports.get? name)) ∧
      let kept := contextKeeping faults file src root fun start =>
        above.any fun d => d.start == start
      kept.callSite (kept.surroundingsAt n above) n =
        (fileContext faults file src root).callSite
          ((fileContext faults file src root).surroundingsAt n above) n := by
  refine ⟨localImports_fileContext himports hdistinct,
    fun d above s hat hs => own_iff_last_importer himports hdistinct hat hs,
    fun n above hat hprevail => ⟨?_, ?_⟩⟩
  · obtain ⟨around, henclosed, hsub, hnames⟩ := exists_enclosedIn hdistinct hat hprevail
    exact ⟨around, henclosed, hsub,
      importOf?_fileContext himports hdistinct hnames (hprevail.subset hsub)⟩
  · refine callSite_contextKeeping himports hdistinct _ hat hprevail fun d hd => ?_
    exact List.any_eq_true.mpr ⟨d, hd, by simp⟩

/-! ## Two functions -/

/-- The tree of the call `a.g()` at offset 26. -/
def attributeCall : Node :=
  .node { kind := "call", start := 26, stop := 31 }
    [.node { kind := "attribute", start := 26, stop := 29, field := some "function" }
      [.node { kind := "identifier", start := 26, stop := 27, field := some "object" } [],
       token "." 27 28,
       .node { kind := "identifier", start := 28, stop := 29, field := some "attribute" } []],
     .node { kind := "argument_list", start := 29, stop := 31, field := some "arguments" }
      [token "(" 29 30, token ")" 30 31]]

def callStatement : Node :=
  .node { kind := "expression_statement", start := 26, stop := 31 } [attributeCall]

def importingBody (start stop : Nat) (more : List Node) : Node :=
  .node { kind := "block", start, stop, field := some "body" }
    (.node { kind := "import_statement", start, stop := start + 8 }
      [token "import" start (start + 6),
       .node { kind := "dotted_name", start := start + 7, stop := start + 8, field := some "name" }
        [.node { kind := "identifier", start := start + 7, stop := start + 8 } []]] :: more)

/-- The tree of a function with a name of one letter and such a body. -/
def importingFunction (start stop : Nat) (more : List Node) : Node :=
  .node { kind := "function_definition", start, stop }
    [token "def" start (start + 3),
     .node { kind := "identifier", start := start + 4, stop := start + 5, field := some "name" } [],
     .node { kind := "parameters", start := start + 5, stop := start + 7, field := some "parameters" }
      [token "(" (start + 5) (start + 6), token ")" (start + 6) (start + 7)],
     token ":" (start + 7) (start + 8),
     importingBody (start + 13) stop more]

/-- The tree of two functions that import something, the first of which makes the call. -/
def twoFunctions : Node :=
  .node { kind := "module", start := 0, stop := 54 }
    [importingFunction 0 31 [callStatement], importingFunction 32 53 []]

def aboveCall : List Node :=
  [callStatement, importingBody 13 31 [callStatement], importingFunction 0 31 [callStatement],
   twoFunctions]

theorem at_attributeCall : twoFunctions.At attributeCall aboveCall :=
  .child (.child (.child (.child .root (by simp [twoFunctions])) (by simp [importingFunction]))
    (by simp [importingBody])) (by simp [callStatement])

/-- Functions of two names: the call goes to the module that its own function imports. -/
theorem localImports_of_functions_distinct :
    let src := plainSource "def f():\n    import a\n    a.g()\ndef h():\n    import b\n"
    let ctx := fileContext Faults.none "m.py" src twoFunctions
    DistinctStarts twoFunctions ∧ twoFunctions.At attributeCall aboveCall ∧
      AllPrevail Faults.none "m.py" src twoFunctions aboveCall ∧
      (ctx.calls twoFunctions).map (fun c => (c.1.callee, c.1.targetModule)) =
        [("a.g", some "a")] ∧
      ∃ around, EnclosedIn Faults.none "m.py" src twoFunctions attributeCall aboveCall around ∧
        (∀ d ∈ around, d ∈ aboveCall) ∧
        ∀ name,
          ctx.importOf? (ctx.index.scopeChain (ctx.surroundingsAt attributeCall aboveCall).scope)
              name =
            (((around.filter fun d => d.kind == "function_definition").findSome? fun d =>
              (ownImports src "m.py" d).get? name) <|> ctx.imports.get? name) := by
  intro src ctx
  have hdistinct : DistinctStarts twoFunctions := by decide
  have hprevail : AllPrevail Faults.none "m.py" src twoFunctions aboveCall := by
    intro d hd hplain
    obtain ⟨inner, outer, heq⟩ := List.append_of_mem hd
    have hat := at_attributeCall
    rw [heq] at hat
    exact prevails_of_nodup hdistinct (by decide +kernel) hplain hat.of_append
  exact ⟨hdistinct, at_attributeCall, hprevail, by decide +kernel,
    ((localImports_of_functions Faults.none "m.py" src twoFunctions rfl hdistinct).2.2 _ _
      at_attributeCall hprevail).1⟩

/-- Functions of one name: the second one hides what the first one imports, and nothing is known of
the call in the first. -/
theorem redefinition_hides_imports :
    let src := plainSource "def f():\n    import a\n    a.g()\ndef f():\n    import b\n"
    let ctx := fileContext Faults.none "m.py" src twoFunctions
    DistinctStarts twoFunctions ∧ twoFunctions.At attributeCall aboveCall ∧
      (ctx.scopeNode? attributeCall aboveCall).map Node.start = some 0 ∧
      ((ownImports src "m.py" (importingFunction 0 31 [callStatement])).get? "a").map
        (·.originModule) = some "a" ∧
      (ctx.calls twoFunctions).map (fun c => (c.1.callee, c.1.kind, c.1.targetModule)) =
        [("a.g", .unresolved, none)] := by
  intro src ctx
  exact ⟨by decide, at_attributeCall, by decide +kernel, by decide +kernel, by decide +kernel⟩

end SourceFacts
