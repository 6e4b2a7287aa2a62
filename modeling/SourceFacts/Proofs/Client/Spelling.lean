import SourceFacts.Proofs.Call.Resolution
import SourceFacts.Proofs.Client.Alike
import SourceFacts.Proofs.File.NestedWith
import SourceFacts.Proofs.File.Protocol
import SourceFacts.Proofs.Import.Package
import SourceFacts.Proofs.Symbol.Search

/-!
# How the function of a request is spelled

One function is called under many names: as a member of a module that an import binds, as a symbol that
it binds, or as something below these. Only the first two are requests. For them a request depends on
the dotted name of the function and on the arguments, and not on how the name was bound.
-/

namespace SourceFacts

/-! ## How a function is reached -/

/-- The rest of a dotted name reaches a member of a module that is bound, or the symbol that is bound
itself, if that is written without a dot. -/
def Import.ReachesDirectly (i : Import) (rest : String) : Prop :=
  match i.originSymbol with
  | none => Text.isDotted rest = false
  | some symbol => rest = "" ∧ Text.isDotted symbol = false

/-- The call was resolved through a binding, and the rest of its name reaches the function. -/
structure CallSite.ReachedThrough (c : CallSite) (i : Import) (rest function : String) : Prop where
  targets : c.Targets i.originModule function
  reached : CallContext.reached i.originSymbol rest = some function

theorem isDotted_reached_iff {i : Import} {rest function : String}
    (h : CallContext.reached i.originSymbol rest = some function) :
    Text.isDotted function = false ↔ i.ReachesDirectly rest := by
  unfold Import.ReachesDirectly
  cases horigin : i.originSymbol with
  | none =>
      rw [horigin] at h
      replace h : nonEmpty? rest = some function := h
      unfold nonEmpty? at h
      split at h
      · exact absurd h (by simp)
      · rw [Option.some.inj h]
  | some symbol =>
      rw [horigin] at h
      replace h : (if rest.isEmpty then some symbol else some (symbol ++ "." ++ rest)) =
        some function := h
      split at h
      · rename_i hempty
        rw [Option.some.inj h, String.isEmpty_iff.mp hempty]
        simp
      · rename_i hrest
        rw [← Option.some.inj h, Text.isDotted_append]
        refine iff_of_false (by simp) fun hdirect => hrest ?_
        rw [hdirect.1]
        rfl

namespace CallContext

variable {ctx : CallContext}

theorem resolveImported?_reached {chain : List Symbol} {aliases : Aliases} {f : Node} {r : Resolution}
    (h : ctx.resolveImported? chain aliases f = some r) (hreceiver : r.receiver = none) :
    ∃ i name, dottedName? ctx.src f = some name ∧
      ctx.importOf? chain (Text.firstPart name) = some i ∧ r.kind = .importQualified ∧
      r.targetModule = some i.originModule ∧
      r.targetSymbol = reached i.originSymbol (Text.laterParts name) := by
  unfold resolveImported? at h
  obtain ⟨name, hname, h⟩ := Option.bind_eq_some_iff.mp h
  dsimp only at h
  split at h
  · rw [← Option.some.inj h] at hreceiver
    exact absurd hreceiver (by simp)
  · obtain ⟨i, hi, h⟩ := Option.bind_eq_some_iff.mp h
    rw [← Option.some.inj h]
    exact ⟨i, name, hname, hi, rfl, rfl, rfl⟩

/-- A call that the third rule resolves, and not through a `with` statement, is reached through the
binding of the first part of its name. -/
theorem callSite_reachedThrough (s : Surroundings) (call : Node) {function : String}
    (hkind : (ctx.callSite s call).kind = .importQualified)
    (hreceiver : (ctx.callSite s call).receiver = none)
    (hfunction : (ctx.callSite s call).targetSymbol = some function) :
    ∃ i name, ctx.importOf? (ctx.index.scopeChain s.scope) (Text.firstPart name) = some i ∧
      (ctx.callSite s call).ReachedThrough i (Text.laterParts name) function := by
  rcases ctx.callSite_cases s call with ⟨f, r, hr, hsite⟩ | ⟨isBuiltin, hsite⟩
  · rw [hsite] at hkind hreceiver hfunction ⊢
    unfold resolve? at hr
    rcases Option.or_eq_some_iff.mp ((Option.orElse_eq_or).symm.trans hr) with hself | ⟨_, hr⟩
    · obtain ⟨_, _, _, _, _, rfl⟩ := resolveSelf?_eq_some hself
      exact absurd hkind (by simp)
    rcases Option.or_eq_some_iff.mp ((Option.orElse_eq_or).symm.trans hr) with hsame | ⟨_, hr⟩
    · obtain ⟨_, _, _, rfl⟩ := resolveSameFile?_eq_some hsame
      exact absurd hkind (by simp)
    obtain ⟨i, name, _, hi, _, hmodule, htarget⟩ := resolveImported?_reached hr hreceiver
    exact ⟨i, name, hi, ⟨hkind, hmodule, hfunction⟩, htarget.symm.trans hfunction⟩
  · rw [hsite] at hkind
    exact absurd hkind (by simp [bareSite])

end CallContext

/-! ## Requests by the name of the function -/

section Request

variable {config : Config} {src : Source} {args : CallArguments} {module function : String}

/-- No function that sends a request has a dot in its name. -/
def Config.HasPlainMethods (config : Config) : Prop :=
  ∀ name, config.httpClientMethods.has name = true → Text.isDotted name = false

theorem requestOf?_of_dotted (hconfig : config.HasPlainMethods) (h : Text.isDotted function = true) :
    requestOf? src config function args = none := by
  have hmethod : ¬ config.httpClientMethods.has function = true := fun hhas => by
    rw [hconfig function hhas] at h
    exact absurd h (by simp)
  have hname : ¬ (function == "request") = true := fun heq => by
    rw [beq_iff_eq.mp heq] at h
    exact absurd h (by decide)
  rw [requestOf?, if_neg hmethod, if_neg hname]

theorem requestAt?_of_dotted (hconfig : config.HasPlainMethods) (h : Text.isDotted function = true) :
    requestAt? src config module function args = none := by
  unfold requestAt?
  rw [requestOf?_of_dotted hconfig h]
  split
  · rfl
  · cases clientLibrary? config (some module) <;> rfl

/-- A dotted name is cut in one way into a module and a name without a dot. -/
theorem split_unique {module' function' : String} (h : Text.isDotted function = false)
    (h' : Text.isDotted function' = false)
    (htarget : module' ++ "." ++ function' = module ++ "." ++ function) :
    module' = module ∧ function' = function := by
  have hdot : ∀ {name : String}, Text.isDotted name = false → '.' ∉ name.toList := fun h => by
    simpa [Text.isDotted] using h
  constructor
  · rw [← Text.earlierParts_append (hdot h') module', htarget, Text.earlierParts_append (hdot h)]
  · rw [← Text.lastPart_append (hdot h') module', htarget, Text.lastPart_append (hdot h)]

end Request

/-- Two calls of one dotted name with the same arguments, each reached through a binding of an import,
make the same request if both reach it directly: as a member of a module or as a symbol that is bound;
and if both were resolved to the same module. Where no method has a dot in its name, a call that reaches
its function in another way makes none. So they differ only where one of them is direct and the other
is not. -/
theorem requests_by_directness (config : Config) :
    (∀ (ctx : CallContext) (s : Surroundings) (call : Node) (function : String),
      (ctx.callSite s call).kind = .importQualified → (ctx.callSite s call).receiver = none →
      (ctx.callSite s call).targetSymbol = some function →
        ∃ i name, ctx.importOf? (ctx.index.scopeChain s.scope) (Text.firstPart name) = some i ∧
          (ctx.callSite s call).ReachedThrough i (Text.laterParts name) function) ∧
    ∀ (src src' : Source) (n n' : Node) (c c' : CallSite) (i i' : Import)
      (rest rest' function function' : String),
      c.ReachedThrough i rest function → c'.ReachedThrough i' rest' function' →
      i'.originModule ++ "." ++ function' = i.originModule ++ "." ++ function →
      SameArguments src src' n n' →
        let r := (c.clientCall? src config n).map ClientCall.request
        let r' := (c'.clientCall? src' config n').map ClientCall.request
        (i.ReachesDirectly rest → i'.ReachesDirectly rest' → r' = r) ∧
        (i'.originModule = i.originModule → r' = r) ∧
        (config.HasPlainMethods →
          (¬ i.ReachesDirectly rest → r = none) ∧ (¬ i'.ReachesDirectly rest' → r' = none) ∧
          ((i.ReachesDirectly rest ↔ i'.ReachesDirectly rest') → r' = r)) := by
  refine ⟨fun ctx s call function => CallContext.callSite_reachedThrough s call, ?_⟩
  intro src src' n n' c c' i i' rest rest' function function' hc hc' htarget hargs r r'
  have hr : r = requestAt? src config i.originModule function (n.callArguments src) :=
    CallSite.request_clientCall? hc.targets src config n
  have hr' : r' = requestAt? src' config i'.originModule function' (n'.callArguments src') :=
    CallSite.request_clientCall? hc'.targets src' config n'
  have hdotted := isDotted_reached_iff hc.reached
  have hdotted' := isDotted_reached_iff hc'.reached
  have hsame : i'.originModule = i.originModule → function' = function → r' = r := by
    intro hmodule hfunction
    rw [hr, hr', hmodule, hfunction]
    exact requestAt?_sameArguments hargs config i.originModule function
  have hdirect : i.ReachesDirectly rest → i'.ReachesDirectly rest' → r' = r := by
    intro h h'
    -- neither function has a dot, so the joined names are cut at their last dot
    obtain ⟨hmodule, hfunction⟩ := split_unique (hdotted.mpr h) (hdotted'.mpr h') htarget
    exact hsame hmodule hfunction
  have hmodule : i'.originModule = i.originModule → r' = r := by
    intro hmodule
    rw [hmodule] at htarget
    exact hsame hmodule (String.append_right_inj _ |>.mp htarget)
  refine ⟨hdirect, hmodule, fun hconfig => ?_⟩
  have hnone : ¬ i.ReachesDirectly rest → r = none := by
    intro h
    rw [hr]
    exact requestAt?_of_dotted hconfig (Bool.not_eq_false _ ▸ mt hdotted.mp h)
  have hnone' : ¬ i'.ReachesDirectly rest' → r' = none := by
    intro h
    rw [hr']
    exact requestAt?_of_dotted hconfig (Bool.not_eq_false _ ▸ mt hdotted'.mp h)
  refine ⟨hnone, hnone', fun hiff => ?_⟩
  by_cases h : i.ReachesDirectly rest
  · exact hdirect h (hiff.mp h)
  · rw [hnone h, hnone' (mt hiff.mpr h)]

/-! ## Two spellings -/

/-- The tree of a call of a name. -/
def nameCall (start nameStop stop : Nat) (arguments : List Node) : Node :=
  .node { kind := "call", start, stop }
    [.node { kind := "identifier", start, stop := nameStop, field := some "function" } [],
     .node { kind := "argument_list", start := nameStop, stop, field := some "arguments" }
      (token "(" nameStop (nameStop + 1) :: arguments ++ [token ")" (stop - 1) stop])]

/-- A symbol that is bound and a member of a module that is bound are two names of one function. -/
theorem requests_by_directness_get :
    let src := plainSource
      "from aiohttp.web import get\nimport aiohttp.web as w\nget(\"/u\")\nw.get(\"/u\")\n"
    let call := nameCall 52 55 61 [address 56]
    let call' := methodCall 62 63 67 73 [address 68]
    let root := moduleOf 74
      [fromStatement 0 27 (dottedName "module_name" 5 16) [dottedName "name" 24 27],
       importAs 28 46 51, evaluated call, evaluated call']
    let i : Import := { localName := "get", originModule := "aiohttp.web", originSymbol := some "get" }
    let i' : Import := { localName := "w", originModule := "aiohttp.web", isAliased := true }
    let site : CallSite :=
      { caller := "<module>", callee := "get", kind := .importQualified, line := some 3
        column := some 0, targetModule := some "aiohttp.web", targetSymbol := some "get" }
    let site' : CallSite := { site with callee := "w.get", line := some 4 }
    site.ReachedThrough i "" "get" ∧ site'.ReachedThrough i' "get" "get" ∧
      i.ReachesDirectly "" ∧ i'.ReachesDirectly "get" ∧ SameArguments src src call call' ∧
      ({} : Config).HasPlainMethods ∧
      (site'.clientCall? src {} call').map ClientCall.request =
        (site.clientCall? src {} call).map ClientCall.request ∧
      fileRequests src root = [some ⟨"GET", some "/u", "literal", "aiohttp"⟩,
        some ⟨"GET", some "/u", "literal", "aiohttp"⟩] := by
  intro src call call' root i i' site site'
  have hreached : site.ReachedThrough i "" "get" := ⟨⟨rfl, rfl, rfl⟩, rfl⟩
  have hreached' : site'.ReachedThrough i' "get" "get" := ⟨⟨rfl, rfl, rfl⟩, rfl⟩
  have hdirect : i.ReachesDirectly "" := ⟨rfl, by decide⟩
  have hdirect' : i'.ReachesDirectly "get" := (by decide : Text.isDotted "get" = false)
  have hargs : SameArguments src src call call' := .some (by decide +kernel)
  have hmethods : ∀ name ∈ ({} : Config).httpClientMethods.items, Text.isDotted name = false := by
    decide +kernel
  have hplain : ({} : Config).HasPlainMethods := fun name h =>
    hmethods name (List.contains_iff_mem.mp h)
  have hrequests := (requests_by_directness {}).2 src src call call' site site' i i' "" "get" "get" "get"
    hreached hreached' rfl hargs
  exact ⟨hreached, hreached', hdirect, hdirect', hargs, hplain, hrequests.1 hdirect hdirect',
    by decide +kernel⟩

/-- One function of one module is called twice with one argument, through a module that is bound by a
`from` statement and through the same module bound under another name. Only the second is a request. -/
theorem request_depends_on_spelling :
    let src := plainSource
      "from aiohttp import web\nimport aiohttp.web as w\nweb.get(\"/u\")\nw.get(\"/u\")\n"
    let call := methodCall 48 51 55 61 [address 56]
    let call' := methodCall 62 63 67 73 [address 68]
    let root := moduleOf 74
      [fromStatement 0 23 (dottedName "module_name" 5 12) [dottedName "name" 20 23],
       importAs 24 42 47, evaluated call, evaluated call']
    SameArguments src src call call' ∧
      (fileCalls Faults.none "m.py" src root).map
          (fun c => (c.1.kind, c.1.targetModule, c.1.targetSymbol, c.1.receiver)) =
        [(.importQualified, some "aiohttp", some "web.get", none),
         (.importQualified, some "aiohttp.web", some "get", none)] ∧
      "aiohttp" ++ "." ++ "web.get" = "aiohttp.web" ++ "." ++ "get" ∧
      fileRequests src root = [none, some ⟨"GET", some "/u", "literal", "aiohttp"⟩] := by
  intro src call call' root
  exact ⟨.some (by decide +kernel), by decide +kernel, by decide, by decide +kernel⟩

end SourceFacts
