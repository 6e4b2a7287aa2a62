import Mathlib.Data.Option.Basic
import SourceFacts.Call.Extraction
import SourceFacts.Endpoint.Route
import SourceFacts.Proofs.Dictionary
import SourceFacts.Symbol.Table
import SourceFacts.TestCase

/-!
# Headers

The header of a symbol leaves out its documentation and whether its body only declares. The look-up of
symbols, the resolution of calls, the routes and the tests read headers alone.
-/

namespace SourceFacts

/-! ## Symbols and tables -/

/-- The symbol without what its documentation and the statements of its body say. -/
def Symbol.header (s : Symbol) : Symbol :=
  { s with hasDocstring := false, docstring := none, isStub := false }

namespace Symbol

variable (s : Symbol)

@[simp] theorem name_header : s.header.name = s.name := rfl

@[simp] theorem qualifiedName_header : s.header.qualifiedName = s.qualifiedName := rfl

@[simp] theorem kind_header : s.header.kind = s.kind := rfl

@[simp] theorem line_header : s.header.line = s.line := rfl

@[simp] theorem column_header : s.header.column = s.column := rfl

@[simp] theorem parent_header : s.header.parent = s.parent := rfl

@[simp] theorem decorators_header : s.header.decorators = s.decorators := rfl

@[simp] theorem parameters_header : s.header.parameters = s.parameters := rfl

@[simp] theorem bases_header : s.header.bases = s.bases := rfl

@[simp] theorem instanceParam_header : s.header.instanceParam = s.instanceParam := rfl

end Symbol

namespace Dictionary

variable {κ α β : Type} [DecidableEq κ] (f : α → β)

theorem putNew_mapValues (d : Dictionary κ α) (k : κ) (v : α) :
    (d.mapValues f).putNew k (f v) = (d.putNew k v).mapValues f := by
  unfold putNew
  rw [get?_mapValues]
  cases d.get? k with
  | none => exact put_mapValues f d k v
  | some _ => rfl

theorem ofList_mapValues (l : List (κ × α)) :
    ofList (l.map fun e => (e.1, f e.2)) = (ofList l).mapValues f := by
  induction l using List.reverseRecOn with
  | nil => rfl
  | append_singleton l e ih =>
      rw [List.map_append, List.map_singleton, ofList_concat, ofList_concat, ih, put_mapValues]

end Dictionary

namespace SymbolIndex

/-- The tables over the headers. -/
def headers (index : SymbolIndex) : SymbolIndex where
  byName := index.byName.mapValues Symbol.header
  children := index.children.mapValues fun table => table.mapValues Symbol.header
  classes := index.classes.mapValues Symbol.header

theorem add_header (index : SymbolIndex) (s : Symbol) :
    index.headers.add s.header = (index.add s).headers := by
  have htable : ((index.headers.children.get? s.parent).getD {}).put s.name s.header =
      (((index.children.get? s.parent).getD {}).put s.name s).mapValues Symbol.header := by
    rw [← Dictionary.put_mapValues, headers, Dictionary.get?_mapValues]
    cases index.children.get? s.parent <;> rfl
  unfold add
  rw [Symbol.parent_header, Symbol.name_header, htable, Symbol.kind_header]
  simp only [headers, Dictionary.put_mapValues, Dictionary.putNew_mapValues,
    Symbol.qualifiedName_header]
  split <;> rfl

theorem prefer_header (index : SymbolIndex) (s : Symbol) :
    index.headers.prefer s.header = (index.prefer s).headers := by
  unfold prefer
  rw [Symbol.kind_header, Symbol.parent_header]
  split
  · simp [headers, Dictionary.put_mapValues]
  · rfl

theorem ofSymbols_map_header (symbols : List Symbol) :
    ofSymbols (symbols.map Symbol.header) = (ofSymbols symbols).headers := by
  have hadd : ∀ (l : List Symbol) (index : SymbolIndex),
      (l.map Symbol.header).foldl add index.headers = (l.foldl add index).headers := by
    intro l
    induction l with
    | nil => exact fun _ => rfl
    | cons s l ih =>
        intro index
        rw [List.map_cons, List.foldl_cons, add_header, ih, List.foldl_cons]
  have hprefer : ∀ (l : List Symbol) (index : SymbolIndex),
      (l.map Symbol.header).foldl prefer index.headers = (l.foldl prefer index).headers := by
    intro l
    induction l with
    | nil => exact fun _ => rfl
    | cons s l ih =>
        intro index
        rw [List.map_cons, List.foldl_cons, prefer_header, ih, List.foldl_cons]
  change (symbols.map Symbol.header).foldl prefer
    ((symbols.map Symbol.header).foldl add ({} : SymbolIndex).headers) = _
  rw [hadd, hprefer, ofSymbols]

section LookUp

variable (index : SymbolIndex)

@[simp]
theorem get?_headers (name : Option String) :
    index.headers.get? name = (index.get? name).map Symbol.header := by
  cases name with
  | none => rfl
  | some name => exact Dictionary.get?_mapValues _ _ _

@[simp]
theorem child?_headers (parent : Option String) (name : String) :
    index.headers.child? parent name = (index.child? parent name).map Symbol.header := by
  simp [child?, headers, Dictionary.get?_mapValues, Option.bind_map, Option.map_bind]

theorem baseClass?_headers (base : String) :
    index.headers.baseClass? base = (index.baseClass? base).map Symbol.header := by
  unfold baseClass?
  split
  · exact Dictionary.get?_mapValues _ _ _
  · rfl

theorem baseClasses_headers (cls : Symbol) :
    index.headers.baseClasses cls.header = (index.baseClasses cls).map Symbol.header := by
  rw [baseClasses, baseClasses, List.map_filterMap, Symbol.bases_header]
  exact List.filterMap_congr fun base _ => index.baseClass?_headers base

theorem ownMethod?_headers (cls : Symbol) (name : String) :
    index.headers.ownMethod? cls.header name = (index.ownMethod? cls name).map Symbol.header := by
  rw [ownMethod?, ownMethod?, Symbol.qualifiedName_header, child?_headers, Option.filter_map]
  rfl

theorem searchMethod_headers (name : String) (unvisited : List String)
    (waiting : List (Symbol × Bool)) :
    index.headers.searchMethod name unvisited (waiting.map fun w => (w.1.header, w.2)) =
      (index.searchMethod name unvisited waiting).map Symbol.header := by
  fun_induction searchMethod index name unvisited waiting with
  | case1 unvisited => rw [List.map_nil, searchMethod, Option.map_none]
  | case2 unvisited cls counts waiting hvisit method hmethod =>
      rw [List.map_cons, searchMethod]
      dsimp only
      rw [dif_pos (show cls.header.qualifiedName ∈ unvisited from hvisit)]
      split at hmethod
      · rename_i hcounts
        rw [if_pos hcounts, ownMethod?_headers, hmethod, Option.map_some]
      · cases hmethod
  | case3 unvisited cls counts waiting hvisit hnone ih =>
      have hnone' : (if counts then index.headers.ownMethod? cls.header name else none) = none := by
        split at hnone
        · rename_i hcounts
          rw [if_pos hcounts, ownMethod?_headers, hnone, Option.map_none]
        · rename_i hcounts
          rw [if_neg hcounts]
      rw [List.map_cons, searchMethod]
      dsimp only
      rw [dif_pos (show cls.header.qualifiedName ∈ unvisited from hvisit), hnone', ← ih,
        List.map_append, List.map_map, baseClasses_headers, List.map_map]
      rfl
  | case4 unvisited cls counts waiting hvisit ih =>
      rw [List.map_cons, searchMethod]
      dsimp only
      rw [dif_neg (show ¬ cls.header.qualifiedName ∈ unvisited from hvisit), ih]

theorem findMethod?_headers (cls : Symbol) (name : String) (counts : Bool) :
    index.headers.findMethod? cls.header name counts =
      (index.findMethod? cls name counts).map Symbol.header := by
  have hkeys : index.headers.byName.keys = index.byName.keys := by
    simp [headers, Dictionary.mapValues, Dictionary.keys]
  rw [findMethod?, findMethod?, hkeys, ← searchMethod_headers]
  rfl

theorem chainFrom_headers (steps : Nat) (scope : Option Symbol) :
    index.headers.chainFrom steps (scope.map Symbol.header) =
      (index.chainFrom steps scope).map Symbol.header := by
  induction steps generalizing scope with
  | zero => rfl
  | succ steps ih =>
      cases scope with
      | none => rfl
      | some s =>
          rw [Option.map_some, chainFrom, chainFrom, List.map_cons, Symbol.parent_header,
            get?_headers, ih]

@[simp]
theorem scopeChain_headers (scope : Option Symbol) :
    index.headers.scopeChain (scope.map Symbol.header) =
      (index.scopeChain scope).map Symbol.header := by
  have hlength : index.headers.byName.entries.length = index.byName.entries.length := by
    simp [headers, Dictionary.mapValues]
  rw [scopeChain, scopeChain, hlength, chainFrom_headers]

end LookUp

end SymbolIndex

/-! ## Calls -/

theorem enclosingMethod?_map_header (receiver : Option String) (shadowed : List String)
    (chain : List Symbol) :
    enclosingMethod? receiver shadowed (chain.map Symbol.header) =
      (enclosingMethod? receiver shadowed chain).map Symbol.header := by
  induction chain generalizing shadowed with
  | nil => rfl
  | cons s outer ih =>
      unfold enclosingMethod?
      simp only [List.map_cons, Symbol.kind_header, Symbol.instanceParam_header,
        Symbol.parameters_header, ih]
      cases s.kind with
      | cls => rfl
      | function => rfl
      | method =>
          cases s.instanceParam with
          | none => rfl
          | some p =>
              cases receiver with
              | none => rfl
              | some r =>
                  dsimp only
                  split <;> rfl

/-- What the calls are resolved against, over the headers. -/
def CallContext.headers (ctx : CallContext) : CallContext :=
  { ctx with symbolAt := ctx.symbolAt.mapValues Symbol.header, index := ctx.index.headers }

/-- What holds at a node, with the header of the scope. -/
def Surroundings.headers (s : Surroundings) : Surroundings :=
  { s with scope := s.scope.map Symbol.header }

namespace CallContext

variable (ctx : CallContext)

theorem receiverMethod?_headers (chain : List Symbol) (receiver : Node) :
    ctx.headers.receiverMethod? (chain.map Symbol.header) receiver =
      (ctx.receiverMethod? chain receiver).map fun r => (r.1.header, r.2) := by
  unfold receiverMethod?
  rw [enclosingMethod?_map_header, enclosingMethod?_map_header]
  split
  · rw [Option.map_map, Option.map_map]
    rfl
  · change (if (receiver.kind == "call" && receiver.callee? ctx.src == some "super") = true then _
      else none) = _
    split
    · rw [Option.map_map, Option.map_map]
      rfl
    · rfl

theorem resolveSelf?_headers (chain : List Symbol) (function : Node) :
    ctx.headers.resolveSelf? (chain.map Symbol.header) function =
      ctx.resolveSelf? chain function := by
  unfold resolveSelf?
  simp only [receiverMethod?_headers, Option.bind_eq_bind, Option.bind_map, Function.comp_def,
    Symbol.parent_header]
  simp only [headers, SymbolIndex.get?_headers, Option.bind_map, Function.comp_def,
    SymbolIndex.findMethod?_headers, Symbol.qualifiedName_header]

theorem visibleIn?_headers (name : String) (scope : Symbol) :
    ctx.headers.visibleIn? name scope.header = (ctx.visibleIn? name scope).map Symbol.header := by
  rw [visibleIn?, visibleIn?, Symbol.qualifiedName_header, headers, SymbolIndex.child?_headers,
    Option.filter_map]
  rfl

theorem visible?_headers (name : String) (chain : List Symbol) :
    ctx.headers.visible? name (chain.map Symbol.header) =
      (ctx.visible? name chain).map Symbol.header := by
  have hscopes : (chain.map Symbol.header).head?.toList ++
      (chain.map Symbol.header).tail.filter (fun s => decide (s.kind ≠ .cls)) =
        (chain.head?.toList ++ chain.tail.filter fun s => decide (s.kind ≠ .cls)).map
          Symbol.header := by
    cases chain with
    | nil => rfl
    | cons s outer =>
        simp only [List.map_cons, List.head?_cons, List.tail_cons, List.filter_map]
        rfl
  have hfound : ∀ scopes : List Symbol,
      (scopes.map Symbol.header).findSome? (ctx.headers.visibleIn? name) =
        (scopes.findSome? (ctx.visibleIn? name)).map Symbol.header := by
    intro scopes
    rw [List.findSome?_map, List.map_findSome?]
    congr 1
    exact funext (ctx.visibleIn?_headers name)
  have hmodule : ctx.headers.index.child? none name =
      (ctx.index.child? none name).map Symbol.header := ctx.index.child?_headers none name
  unfold visible?
  dsimp only
  rw [hscopes, hfound, hmodule]
  cases (chain.head?.toList ++ chain.tail.filter fun s => decide (s.kind ≠ .cls)).findSome?
    (ctx.visibleIn? name) <;> rfl

theorem resolveSameFile?_headers (chain : List Symbol) (function : Node) :
    ctx.headers.resolveSameFile? (chain.map Symbol.header) function =
      ctx.resolveSameFile? chain function := by
  unfold resolveSameFile?
  rw [visible?_headers, Option.map_map]
  rfl

theorem importOf?_headers (chain : List Symbol) (name : String) :
    ctx.headers.importOf? (chain.map Symbol.header) name = ctx.importOf? chain name := by
  rw [importOf?, importOf?, List.findSome?_map]
  rfl

theorem resolve?_headers (chain : List Symbol) (aliases : Aliases) (function : Node) :
    ctx.headers.resolve? (chain.map Symbol.header) aliases function =
      ctx.resolve? chain aliases function := by
  rw [resolve?, resolve?, resolveSelf?_headers, resolveSameFile?_headers]
  unfold resolveImported?
  simp only [importOf?_headers]
  rfl

theorem aliasesOf_headers (chain : List Symbol) (statement : Node) :
    ctx.headers.aliasesOf (chain.map Symbol.header) statement = ctx.aliasesOf chain statement := by
  have hitem : ctx.headers.aliasOfItem? (chain.map Symbol.header) = ctx.aliasOfItem? chain := by
    funext item
    unfold aliasOfItem?
    simp only [importOf?_headers]
    rfl
  rw [aliasesOf, aliasesOf, hitem]

theorem enter_headers (s : Surroundings) (parent child : Node) :
    ctx.headers.enter s.headers parent child = (ctx.enter s parent child).headers := by
  have hscope : (ctx.headers.symbolAt.get? parent.start <|> s.headers.scope) =
      (ctx.symbolAt.get? parent.start <|> s.scope).map Symbol.header := by
    rw [headers, Dictionary.get?_mapValues]
    cases ctx.symbolAt.get? parent.start <;> rfl
  have hchain : ctx.headers.index.scopeChain s.headers.scope =
      (ctx.index.scopeChain s.scope).map Symbol.header := ctx.index.scopeChain_headers s.scope
  unfold enter
  dsimp only
  rw [hscope, hchain, aliasesOf_headers, Surroundings.headers, Surroundings.headers]
  split <;> rfl

theorem callSite_headers (s : Surroundings) (call : Node) :
    ctx.headers.callSite s.headers call = ctx.callSite s call := by
  have hcaller : (s.headers.scope.map (·.qualifiedName)) = s.scope.map (·.qualifiedName) := by
    rw [Surroundings.headers, Option.map_map]
    rfl
  have hchain : ctx.headers.index.scopeChain s.headers.scope =
      (ctx.index.scopeChain s.scope).map Symbol.header := ctx.index.scopeChain_headers s.scope
  unfold callSite
  rw [hcaller, hchain]
  cases call.child? "function" with
  | none => rfl
  | some f =>
      dsimp only
      rw [resolve?_headers]
      rfl

mutual

theorem callsFrom_headers (s : Surroundings) :
    (n : Node) → ctx.headers.callsFrom s.headers n = ctx.callsFrom s n
  | .node l cs => by
      rw [callsFrom, callsFrom, callsAmong_headers s (.node l cs) cs, callSite_headers]

theorem callsAmong_headers (s : Surroundings) (parent : Node) :
    (ns : List Node) → ctx.headers.callsAmong s.headers parent ns = ctx.callsAmong s parent ns
  | [] => by rw [callsAmong, callsAmong]
  | n :: ns => by
      rw [callsAmong, callsAmong, enter_headers, callsFrom_headers _ n,
        callsAmong_headers s parent ns]

end

theorem calls_headers (root : Node) : ctx.headers.calls root = ctx.calls root :=
  ctx.callsFrom_headers {} root

end CallContext

/-! ## Definitions -/

/-- What some statements define, with the headers of the symbols. -/
def Definitions.headers (d : Definitions) : Definitions :=
  { d with symbols := d.symbols.map fun e => (e.1, e.2.header) }

theorem Definitions.byOffset_headers (d : Definitions) :
    d.headers.byOffset = d.byOffset.mapValues Symbol.header :=
  Dictionary.ofList_mapValues Symbol.header d.symbols

theorem Definitions.map_snd_headers (d : Definitions) :
    d.headers.symbols.map (·.2) = (d.symbols.map (·.2)).map Symbol.header := by
  simp [Definitions.headers]

theorem localImportsByName_mapValues_header (symbolAt : Dictionary Nat Symbol)
    (localMaps : Dictionary Nat ImportMap) :
    localImportsByName (symbolAt.mapValues Symbol.header) localMaps =
      localImportsByName symbolAt localMaps := by
  simp [localImportsByName, Dictionary.get?_mapValues, Function.comp_def]

/-! ## Routes and tests -/

section Sections

variable (config : Config) (misfits : Misfits)

theorem decorations_map_header (symbols : List Symbol) :
    decorations (symbols.map Symbol.header) =
      (decorations symbols).map fun d => (d.1.header, d.2) := by
  simp only [decorations, List.filter_map, List.flatMap_map, List.map_flatMap, List.map_map,
    Function.comp_def, Symbol.decorators_header]
  rfl

theorem endpointsOf_map_header (hint : Option String) (symbols : List Symbol) :
    endpointsOf config hint (symbols.map Symbol.header) misfits =
      endpointsOf config hint symbols misfits := by
  rw [endpointsOf, decorations_map_header, beforeMisfit, List.takeWhile_map, List.flatMap_map]
  rfl

theorem endpointsMisfit?_map_header (symbols : List Symbol) :
    endpointsMisfit? config misfits (symbols.map Symbol.header) =
      endpointsMisfit? config misfits symbols := by
  rw [endpointsMisfit?, decorations_map_header, List.findSome?_map]
  rfl

theorem testCase?_header (module : String) (index : SymbolIndex) (s : Symbol) :
    s.header.testCase? config module index.headers = s.testCase? config module index := by
  unfold Symbol.testCase?
  rw [Symbol.name_header, Symbol.kind_header, Symbol.parent_header]
  split
  · cases s.kind with
    | cls => rfl
    | function => cases s.parent <;> rfl
    | method =>
        dsimp only
        rw [SymbolIndex.get?_headers, Option.filter_map, Option.map_map]
        rfl
  · rfl

theorem testMisfit?_header (index : SymbolIndex) (s : Symbol) :
    s.header.testMisfit? config misfits index.headers = s.testMisfit? config misfits index := by
  unfold Symbol.testMisfit?
  rw [Symbol.name_header, Symbol.kind_header, Symbol.parent_header, SymbolIndex.get?_headers,
    Option.bind_map]
  rfl

theorem testCasesOf_map_header (module : String) (symbols : List Symbol) :
    testCasesOf config module (symbols.map Symbol.header) misfits =
      testCasesOf config module symbols misfits := by
  unfold testCasesOf
  dsimp only
  rw [SymbolIndex.ofSymbols_map_header, beforeMisfit, beforeMisfit, List.takeWhile_map,
    List.filterMap_map]
  simp only [Function.comp_def, testMisfit?_header, testCase?_header]

theorem testCasesMisfit?_map_header (symbols : List Symbol) :
    testCasesMisfit? config misfits (symbols.map Symbol.header) =
      testCasesMisfit? config misfits symbols := by
  unfold testCasesMisfit?
  rw [SymbolIndex.ofSymbols_map_header, List.findSome?_map]
  simp only [Function.comp_def, testMisfit?_header]

end Sections

end SourceFacts
