import Mathlib.Data.List.Forall2
import Mathlib.Data.Option.Basic
import SourceFacts.Client.Detection
import SourceFacts.Proofs.Client.Sum
import SourceFacts.Proofs.File.Parts
import SourceFacts.Proofs.Related

/-!
# What a request asks for

What is reported of a request, apart from who sends it and where, comes from the module and the function
that are called and from the arguments. Calls whose arguments are related, one by one, ask for related
addresses with the same method.
-/

namespace SourceFacts

open StringText

/-! ## Related arguments -/

namespace CallArguments

/-- The arguments of two calls are related, one by one. -/
structure Related (R : Node → Node → Prop) (args args' : CallArguments) : Prop where
  positional : List.Forall₂ R args.positional args'.positional
  keywords : ∀ key, Option.Rel R (args.keywords.get? key) (args'.keywords.get? key)

/-- Two arguments are passed in the same way: for one keyword, spread, or by position. -/
inductive PassedAlike (R : Node → Node → Prop) (src src' : Source) (a a' : Node) : Prop where
  | keyword (h : a.kind = "keyword_argument") (h' : a'.kind = "keyword_argument")
      (hname : (a'.child? "name").map src'.text = (a.child? "name").map src.text)
      (hvalue : Option.Rel R (a.child? "value") (a'.child? "value"))
  | spread (h : a.kind ≠ "keyword_argument") (h' : a'.kind ≠ "keyword_argument")
      (hspread : a.isSplat = true) (hspread' : a'.isSplat = true)
  | positional (h : a.kind ≠ "keyword_argument") (h' : a'.kind ≠ "keyword_argument")
      (hplain : a.isSplat = false) (hplain' : a'.isSplat = false) (hr : R a a')

variable {R : Node → Node → Prop} {src src' : Source} {args args' : CallArguments}

theorem PassedAlike.of_kind {a a' : Node} (hkind : a'.kind = a.kind)
    (hname : (a'.child? "name").map src'.text = (a.child? "name").map src.text)
    (hvalue : Option.Rel R (a.child? "value") (a'.child? "value")) (hr : R a a') :
    PassedAlike R src src' a a' := by
  have hsplat : a'.isSplat = a.isSplat := by rw [Node.isSplat, Node.isSplat, hkind]
  by_cases hkeyword : a.kind = "keyword_argument"
  · exact .keyword hkeyword (hkind.trans hkeyword) hname hvalue
  · have hkeyword' : a'.kind ≠ "keyword_argument" := hkind ▸ hkeyword
    cases hspread : a.isSplat with
    | true => exact .spread hkeyword hkeyword' hspread (hsplat.trans hspread)
    | false => exact .positional hkeyword hkeyword' hspread (hsplat.trans hspread) hr

theorem add_spread {a : Node} (h : a.kind ≠ "keyword_argument") (hspread : a.isSplat = true) :
    args.add src a = args := by
  rw [CallArguments.add, if_neg (mt beq_iff_eq.mp h), if_pos hspread]

theorem add_positional {a : Node} (h : a.kind ≠ "keyword_argument") (hplain : a.isSplat = false) :
    args.add src a = { args with positional := args.positional ++ [a] } := by
  rw [CallArguments.add, if_neg (mt beq_iff_eq.mp h), if_neg (Bool.not_eq_true _ ▸ hplain)]

theorem Related.add (h : args.Related R args') {a a' : Node} (ha : PassedAlike R src src' a a') :
    (args.add src a).Related R (args'.add src' a') := by
  cases ha with
  | keyword hkind hkind' hname hvalue =>
      rw [CallArguments.add, if_pos (beq_iff_eq.mpr hkind), CallArguments.add,
        if_pos (beq_iff_eq.mpr hkind')]
      revert hname hvalue
      generalize a.child? "value" = v
      generalize a'.child? "value" = v'
      cases a.child? "name" <;> cases a'.child? "name" <;> intro hname hvalue
      · exact h
      · exact absurd hname (by simp)
      · exact absurd hname (by simp)
      · cases hvalue with
        | none => exact h
        | some hv =>
            refine ⟨h.positional, fun key => ?_⟩
            rw [Dictionary.get?_put, Dictionary.get?_put, Option.some.inj hname]
            split
            · exact .some hv
            · exact h.keywords key
  | spread hkind hkind' hspread hspread' =>
      rw [add_spread hkind hspread, add_spread hkind' hspread']
      exact h
  | positional hkind hkind' hplain hplain' hr =>
      rw [add_positional hkind hplain, add_positional hkind' hplain']
      exact ⟨List.rel_append h.positional (.cons hr .nil), h.keywords⟩

theorem Related.foldl_add {as as' : List Node} (has : List.Forall₂ (PassedAlike R src src') as as')
    (h : args.Related R args') :
    (as.foldl (CallArguments.add src) args).Related R (as'.foldl (CallArguments.add src') args') := by
  induction has generalizing args args' with
  | nil => exact h
  | cons ha _ ih => exact ih (h.add ha)

theorem related_empty : Related R {} {} := ⟨.nil, fun _ => .none⟩

end CallArguments

/-- Two lists of arguments have the same kind and pass their arguments in the same way. -/
def ListedAlike (R : Node → Node → Prop) (src src' : Source) (list list' : Node) : Prop :=
  list'.kind = list.kind ∧
    List.Forall₂ (CallArguments.PassedAlike R src src') list.contents list'.contents

section Request

variable {R : Node → Node → Prop} {src src' : Source}

theorem callArguments_related {n n' : Node}
    (h : Option.Rel (ListedAlike R src src') (n.child? "arguments") (n'.child? "arguments")) :
    (n.callArguments src).Related R (n'.callArguments src') := by
  unfold Node.callArguments
  revert h
  generalize n.child? "arguments" = a
  generalize n'.child? "arguments" = a'
  intro h
  cases h with
  | none => exact CallArguments.related_empty
  | some hlist =>
      obtain ⟨hkind, hcontents⟩ := hlist
      dsimp only
      rw [hkind]
      split
      · exact .foldl_add hcontents CallArguments.related_empty
      · exact CallArguments.related_empty

/-- The method that a call of the function `request` names. -/
def CallArguments.methodText? (src : Source) (args : CallArguments) : Option StringText :=
  (args.positional.head? <|> args.keywords.get? "method").bind (stringText? src)

theorem CallArguments.Related.head? {args args' : CallArguments} (h : args.Related R args') :
    Option.Rel R args.positional.head? args'.positional.head? := by
  rw [List.head?_eq_getElem?, List.head?_eq_getElem?]
  exact getElem?_related h.positional 0

theorem methodText?_related (hR : ∀ a a', R a a' → stringText? src' a' = stringText? src a)
    {args args' : CallArguments} (h : args.Related R args') :
    args'.methodText? src' = args.methodText? src :=
  bind_eq_of_related (orElse_related h.head? (h.keywords "method")) hR

/-- The same method is sent to related addresses, if the function tells it, or else if the arguments name
the same one. -/
theorem requestOf?_related {args args' : CallArguments} (h : args.Related R args') (config : Config)
    (function : String) (hmethod : config.httpClientMethods.has function = true ∨
      args'.methodText? src' = args.methodText? src) :
    Option.Rel (fun r r' => r'.1 = r.1 ∧ Option.Rel R r.2 r'.2)
      (requestOf? src config function args) (requestOf? src' config function args') := by
  have hsecond := getElem?_related h.positional 1
  unfold requestOf?
  by_cases hhas : config.httpClientMethods.has function = true
  · rw [if_pos hhas, if_pos hhas]
    exact .some ⟨rfl, orElse_related h.head? (h.keywords "url")⟩
  rw [if_neg hhas, if_neg hhas]
  have hmethod := hmethod.resolve_left hhas
  unfold CallArguments.methodText? at hmethod
  rw [hmethod]
  split
  · cases (args.positional.head? <|> args.keywords.get? "method").bind (stringText? src) with
    | none => exact .none
    | some method =>
        by_cases hlisted : (!method.content.isEmpty &&
            config.httpClientMethods.has (Text.lower method.content)) = true
        · simp only [Option.bind_eq_bind, Option.bind_some, hlisted, guard_true]
          exact .some ⟨rfl, orElse_related hsecond (h.keywords "url")⟩
        · simp only [Option.bind_eq_bind, Option.bind_some, hlisted]
          exact .none
  · exact .none

end Request

/-! ## What is reported -/

/-- What is reported of a request, whoever sends it. -/
structure Request where
  method : String
  path : Option String
  pathKind : String
  library : String
deriving DecidableEq

def ClientCall.request (c : ClientCall) : Request :=
  { method := c.method, path := c.path, pathKind := c.pathKind, library := c.library }

/-- The request with a method to an address through a library. -/
def Request.to (src : Source) (library : String) (r : String × Option Node) : Request :=
  { method := r.1, path := (addressPath src r.2).1, pathKind := (addressPath src r.2).2.name, library }

/-- What a call of a function of a module asks for. -/
def requestAt? (src : Source) (config : Config) (module function : String) (args : CallArguments) :
    Option Request :=
  if function.isEmpty then none
  else (clientLibrary? config (some module)).bind fun library =>
    (requestOf? src config function args).map (Request.to src library)

theorem requestAt?_related {src src' : Source} {S : Request → Request → Prop} {config : Config}
    {function : String} {args args' : CallArguments}
    (h : Option.Rel (fun r r' => ∀ library, S (Request.to src library r) (Request.to src' library r'))
      (requestOf? src config function args) (requestOf? src' config function args')) (module : String) :
    Option.Rel S (requestAt? src config module function args)
      (requestAt? src' config module function args') := by
  unfold requestAt?
  revert h
  generalize requestOf? src config function args = found
  generalize requestOf? src' config function args' = found'
  intro h
  by_cases hempty : function.isEmpty = true
  · rw [if_pos hempty, if_pos hempty]
    exact .none
  rw [if_neg hempty, if_neg hempty]
  cases clientLibrary? config (some module) with
  | none => exact .none
  | some library =>
      cases h with
      | none => exact .none
      | some hr => exact .some (hr library)

/-- The call was resolved to a function of a module. -/
structure CallSite.Targets (c : CallSite) (module function : String) : Prop where
  kind : c.kind = .importQualified
  module : c.targetModule = some module
  function : c.targetSymbol = some function

theorem CallSite.request_clientCall? {c : CallSite} {module function : String}
    (h : c.Targets module function) (src : Source) (config : Config) (n : Node) :
    (c.clientCall? src config n).map ClientCall.request =
      requestAt? src config module function (n.callArguments src) := by
  unfold clientCall? requestAt?
  rw [h.kind, h.module, h.function]
  dsimp only [Option.bind_eq_bind, Option.bind_some]
  cases function.isEmpty with
  | true => rfl
  | false =>
      cases clientLibrary? config (some module) with
      | none => rfl
      | some library =>
          cases requestOf? src config function (n.callArguments src) with
          | none => rfl
          | some r => rfl

/-- What is sent by the calls of a file. -/
def fileRequests (src : Source) (root : Node) : List (Option Request) :=
  (fileCalls Faults.none "m.py" src root).map fun c =>
    (c.1.clientCall? src {} c.2).map ClientCall.request

/-- The tree of a statement that is an expression. -/
def evaluated (call : Node) : Node :=
  .node { kind := "expression_statement", start := call.start, stop := call.stop } [call]

end SourceFacts
