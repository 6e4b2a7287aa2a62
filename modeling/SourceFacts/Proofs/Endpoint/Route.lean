import Mathlib.Data.List.Infix
import Mathlib.Data.List.Nodup
import SourceFacts.Proofs.File.NestedWith
import SourceFacts.Proofs.File.Parts
import SourceFacts.Proofs.File.Protocol
import SourceFacts.Proofs.Order
import SourceFacts.Proofs.Symbol.Search

/-!
# One endpoint for each method of a route

A decorator binds its handler to one path. Its endpoints differ in their methods alone: the verb that it
is named by, or the methods that it lists, each once and in the order in which they first occur. A list
of methods that is not written out as texts binds nothing.
-/

namespace SourceFacts

/-! ## First occurrences -/

/-- The texts of the list, each once, in the order in which they first occur in it. -/
structure FirstOccurrences (l found : List String) : Prop where
  nodup : found.Nodup
  mem_iff : ∀ s, s ∈ found ↔ s ∈ l
  ordered : found.Pairwise fun s t => l.idxOf s < l.idxOf t

theorem firstOccurrences_concat (l : List String) (s : String) :
    firstOccurrences (l ++ [s]) =
      if s ∈ firstOccurrences l then firstOccurrences l else firstOccurrences l ++ [s] := by
  simp [firstOccurrences, List.foldl_append]

/-- One text more: it is added at the end unless it has occurred. -/
theorem FirstOccurrences.concat {l found : List String} (h : FirstOccurrences l found) (s : String) :
    FirstOccurrences (l ++ [s]) (if s ∈ found then found else found ++ [s]) := by
  -- What has occurred keeps its first place, and a new text comes behind all of it.
  have hidx : ∀ t ∈ found, (l ++ [s]).idxOf t = l.idxOf t := fun t ht =>
    List.idxOf_append_of_mem ((h.mem_iff t).mp ht)
  have hordered : found.Pairwise fun t u => (l ++ [s]).idxOf t < (l ++ [s]).idxOf u := by
    apply h.ordered.imp_of_mem
    intro t u ht hu htu
    rwa [hidx t ht, hidx u hu]
  by_cases hs : s ∈ found
  · have hmem : s ∈ l := (h.mem_iff s).mp hs
    rw [if_pos hs]
    refine ⟨h.nodup, fun t => ?_, hordered⟩
    rw [h.mem_iff, List.mem_append, List.mem_singleton]
    exact ⟨Or.inl, fun ht => ht.elim id fun heq => heq ▸ hmem⟩
  · have hnew : s ∉ l := fun hmem => hs ((h.mem_iff s).mpr hmem)
    rw [if_neg hs]
    refine ⟨?_, fun t => ?_, ?_⟩
    · rw [List.nodup_append]
      refine ⟨h.nodup, List.nodup_singleton s, fun t ht u hu => ?_⟩
      rintro rfl
      exact hs (List.mem_singleton.mp hu ▸ ht)
    · rw [List.mem_append, List.mem_append, h.mem_iff]
    · rw [List.pairwise_append]
      refine ⟨hordered, List.pairwise_singleton .., fun t ht u hu => ?_⟩
      rw [List.mem_singleton.mp hu, hidx t ht, List.idxOf_append_of_notMem hnew]
      have hlt := List.idxOf_lt_length_of_mem ((h.mem_iff t).mp ht)
      omega

theorem firstOccurrences_spec (l : List String) : FirstOccurrences l (firstOccurrences l) := by
  induction l using List.reverseRecOn with
  | nil => exact ⟨List.nodup_nil, fun _ => Iff.rfl, .nil⟩
  | append_singleton l s ih =>
      rw [firstOccurrences_concat]
      exact ih.concat s

/-! ## Values that are texts -/

theorem allTexts?_map_text (texts : List String) : allTexts? (texts.map .text) = some texts := by
  induction texts with
  | nil => rfl
  | cons s texts ih => simp [allTexts?, ih]

theorem allTexts?_eq_none {items : List Literal} {v : Literal} (hv : v ∈ items)
    (htext : ∀ s, v ≠ .text s) : allTexts? items = none := by
  induction items with
  | nil => exact absurd hv List.not_mem_nil
  | cons w items ih =>
      cases w with
      | text s =>
          rcases List.mem_cons.mp hv with rfl | hv
          · exact absurd rfl (htext s)
          · rw [allTexts?, ih hv]
            rfl
      | _ => rfl

/-! ## What a decorator binds -/

namespace Decorator

/-- The decorator calls a member of a router. -/
structure Applies (d : Decorator) (router member : String) : Prop where
  isCall : d.isCall = true
  callee : d.callee = some (router ++ "." ++ member)
  simple : '.' ∉ member.toList

/-- The path is written out: as the first argument without a keyword, else for `path`, else for `rule`. -/
inductive HasPath (d : Decorator) : String → Prop where
  | positional {a : Argument} {rest : List Argument} {path : String}
      (h : d.positional = a :: rest) (ha : a.value = some (.text path)) : HasPath d path
  | path {a : Argument} {path : String} (hnone : d.positional = [])
      (h : d.keyword? "path" = some a) (ha : a.value = some (.text path)) : HasPath d path
  | rule {a : Argument} {path : String} (hnone : d.positional = [])
      (hpath : d.keyword? "path" = none) (h : d.keyword? "rule" = some a)
      (ha : a.value = some (.text path)) : HasPath d path

theorem stringValue?_eq_some_iff {a : Argument} {s : String} :
    a.stringValue? = some s ↔ a.value = some (.text s) := by
  unfold Argument.stringValue?
  split
  · rename_i t ht
    rw [ht]
    simp
  · rename_i hne
    constructor
    · exact fun h => absurd h (by simp)
    · exact fun h => absurd h (hne s)

theorem routePath?_eq_some_iff {d : Decorator} {path : String} :
    d.routePath? = some path ↔ d.HasPath path := by
  unfold routePath?
  constructor
  · intro h
    split at h
    · rename_i a rest hpositional
      exact .positional hpositional (stringValue?_eq_some_iff.mp h)
    · rename_i hnone
      split at h
      · rename_i a hpath
        exact .path hnone hpath (stringValue?_eq_some_iff.mp h)
      · rename_i hpath
        obtain ⟨a, hrule, ha⟩ := Option.bind_eq_some_iff.mp h
        exact .rule hnone hpath hrule (stringValue?_eq_some_iff.mp ha)
  · intro h
    cases h with
    | positional h ha => rw [h]; exact stringValue?_eq_some_iff.mpr ha
    | path hnone h ha => rw [hnone, h]; exact stringValue?_eq_some_iff.mpr ha
    | rule hnone hpath h ha => rw [hnone, hpath, h]; exact stringValue?_eq_some_iff.mpr ha

variable {config : Config} {hint : Option String} {handler : String} {d : Decorator}

/-- The endpoints that a decorator binds to some methods of a path. -/
def bound (d : Decorator) (router path handler framework : String) (methods : List String) :
    List Endpoint :=
  methods.map fun method =>
    { method, path, handler, framework, line := d.line, router := some router }

theorem map_method_bound (d : Decorator) (router path handler framework : String)
    (methods : List String) :
    (d.bound router path handler framework methods).map (·.method) = methods := by
  rw [bound, List.map_map]
  exact List.map_id' methods

/-- A member of a router that is called binds its methods to its path, if it has both. -/
theorem endpoints_eq {router member : String} (h : d.Applies router member) :
    d.endpoints config hint handler =
      match d.routeBinding? config hint member, d.routePath? with
      | some (methods, framework), some path => d.bound router path handler framework methods
      | _, _ => [] := by
  unfold endpoints
  rw [h.callee]
  dsimp only
  rw [h.isCall, Text.isDotted_append, Text.lastPart_append h.simple,
    Text.earlierParts_append h.simple]
  rfl

/-- Nothing else binds anything. -/
theorem endpoints_of_not_applies (h : ∀ router member, ¬ d.Applies router member) :
    d.endpoints config hint handler = [] := by
  unfold endpoints
  split
  · rfl
  · rename_i callee hcallee
    split
    · rename_i hcall
      obtain ⟨hisCall, hdotted⟩ := Bool.and_eq_true_iff.mp hcall
      obtain ⟨router, member, rfl, hsimple⟩ := Text.exists_eq_append_of_isDotted hdotted
      exact absurd ⟨hisCall, hcallee, hsimple⟩ (h router member)
    · rfl

theorem endpoints_of_pathless (h : ∀ path, ¬ d.HasPath path) :
    d.endpoints config hint handler = [] := by
  have hpath : d.routePath? = none :=
    Option.eq_none_iff_forall_ne_some.mpr fun path hsome => h path (routePath?_eq_some_iff.mp hsome)
  by_cases happlies : ∃ router member, d.Applies router member
  · obtain ⟨router, member, happlies⟩ := happlies
    rw [endpoints_eq happlies, hpath]
    cases d.routeBinding? config hint member <;> rfl
  · exact endpoints_of_not_applies fun router member h => happlies ⟨router, member, h⟩

/-- Where there are endpoints, a member of a router is called with a path, and it binds methods. -/
theorem endpoints_cases (config : Config) (hint : Option String) (handler : String)
    (d : Decorator) :
    d.endpoints config hint handler = [] ∨ ∃ router member path methods framework,
      d.Applies router member ∧ d.HasPath path ∧
      d.routeBinding? config hint member = some (methods, framework) ∧
      d.endpoints config hint handler = d.bound router path handler framework methods := by
  by_cases happlies : ∃ router member, d.Applies router member
  · obtain ⟨router, member, happlies⟩ := happlies
    rw [endpoints_eq happlies]
    cases hbinding : d.routeBinding? config hint member with
    | none => exact Or.inl rfl
    | some binding =>
        cases hpath : d.routePath? with
        | none => exact Or.inl rfl
        | some path =>
            exact Or.inr ⟨router, member, path, binding.1, binding.2, happlies,
              routePath?_eq_some_iff.mp hpath, hbinding, rfl⟩
  · exact Or.inl (endpoints_of_not_applies fun router member h => happlies ⟨router, member, h⟩)

/-! ## Methods -/

theorem nodup_routeMethods (d : Decorator) : d.routeMethods.Nodup := by
  unfold routeMethods
  split
  · exact List.nodup_singleton _
  · exact (firstOccurrences_spec _).nodup

theorem nodup_routeBinding? {member framework : String} {methods : List String}
    (h : d.routeBinding? config hint member = some (methods, framework)) : methods.Nodup := by
  unfold routeBinding? at h
  split at h
  · cases h
    exact d.nodup_routeMethods
  split at h
  · cases h
    exact List.nodup_singleton _
  · exact absurd h (by simp)

theorem routeBinding?_route (config : Config) (hint : Option String) (d : Decorator) :
    d.routeBinding? config hint config.routeDecorator = some (d.routeMethods, "flask") := by
  rw [routeBinding?, if_pos (beq_self_eq_true _)]

theorem routeBinding?_verb {member : String} (hroute : member ≠ config.routeDecorator)
    (hverb : config.routeVerbs.has member = true) :
    d.routeBinding? config hint member = some ([Text.upper member], frameworkOr hint) := by
  rw [routeBinding?, if_neg (by simpa using hroute), if_pos hverb]

theorem routeMethods_of_unread {a : Argument} (h : d.keyword? "methods" = some a)
    (ha : a.value = none) : d.routeMethods = [] := by
  rw [routeMethods, h]
  dsimp only
  rw [ha]
  rfl

theorem routeMethods_of_list {a : Argument} {items : List Literal}
    (h : d.keyword? "methods" = some a) (ha : a.value = some (.list items)) :
    d.routeMethods = firstOccurrences (((allTexts? items).getD []).map Text.upper) := by
  rw [routeMethods, h]
  dsimp only
  rw [ha]

/-- A route without methods binds nothing. -/
theorem endpoints_of_no_methods {router : String} (h : d.Applies router config.routeDecorator)
    (hmethods : d.routeMethods = []) : d.endpoints config hint handler = [] := by
  rw [endpoints_eq h, routeBinding?_route, hmethods]
  cases d.routePath? <;> rfl

end Decorator

/-! ## The endpoints of a file -/

section File

variable (config : Config) (misfits : Misfits) (faults : Faults) (file : String)
variable (src : Source) (root : Node)

/-- The endpoints of the file before they are put in order. -/
def fileEndpoints : List Endpoint :=
  faults.run .endpoints
    (endpointsOf config (fileImports faults file src root).moduleMap.framework?
      (fileSymbols faults file src root) misfits) []

/-- The endpoints of the decorators of functions and methods, one list after the other. -/
def decoratedEndpoints : List Endpoint :=
  ((fileSymbols faults file src root).filter fun s => decide (s.kind ≠ .cls)).flatMap fun s =>
    s.decorators.flatMap fun d =>
      d.endpoints config (fileImports faults file src root).moduleMap.framework? s.qualifiedName

theorem endpointsOf_prefix (hint : Option String) (symbols : List Symbol) :
    endpointsOf config hint symbols misfits <+: endpointsOf config hint symbols := by
  obtain ⟨rest, hrest⟩ := List.takeWhile_prefix
    (fun d : Symbol × Decorator => (d.2.misfit? config misfits).isNone) (l := decorations symbols)
  refine ⟨rest.flatMap fun d => d.2.endpoints config hint d.1.qualifiedName, ?_⟩
  have hall : endpointsOf config hint symbols =
      (decorations symbols).flatMap fun d => d.2.endpoints config hint d.1.qualifiedName := by
    simp [endpointsOf]
  rw [hall, ← hrest, List.flatMap_append]
  rfl

theorem endpointsOf_of_verbs (h : misfits.routeVerbs = none) (hint : Option String)
    (symbols : List Symbol) :
    endpointsOf config hint symbols misfits = endpointsOf config hint symbols := by
  have hnone : (fun d : Symbol × Decorator => d.2.misfit? config misfits) = fun _ => none := by
    funext d
    unfold Decorator.misfit?
    split
    · rfl
    · split
      · exact h
      · rfl
  rw [endpointsOf, endpointsOf, hnone]
  simp

theorem fileEndpoints_prefix :
    fileEndpoints config misfits faults file src root <+:
      decoratedEndpoints config faults file src root := by
  apply Faults.run_induction (P := fun found : List Endpoint => found <+: _)
  · rw [decoratedEndpoints, ← endpointsOf_eq]
    exact endpointsOf_prefix ..
  · exact List.nil_prefix

theorem fileEndpoints_eq (hfault : faults .endpoints = none) (hverbs : misfits.routeVerbs = none) :
    fileEndpoints config misfits faults file src root =
      decoratedEndpoints config faults file src root := by
  rw [fileEndpoints, Faults.run_of_none hfault, endpointsOf_of_verbs config misfits hverbs,
    endpointsOf_eq, decoratedEndpoints]

end File

/-- What the endpoints of a decorator have in common, and which methods they have. -/
structure Decorator.Binds (config : Config) (handler : String) (d : Decorator)
    (found : List Endpoint) : Prop where
  /-- They differ in their methods alone. -/
  alike : ∃ path framework router, ∀ e ∈ found,
    (∃ member, d.Applies router member) ∧ e.router = some router ∧ e.path = path ∧
      e.handler = handler ∧ e.framework = framework ∧ e.line = d.line
  distinct : (found.map (·.method)).Nodup
  /-- A route has the methods that are listed, if all of them are texts. -/
  listed : ∀ (router : String) (a : Argument) (items : List Literal) (texts : List String)
      (path : String), d.Applies router config.routeDecorator →
    d.keyword? "methods" = some a → a.value = some (.list items) → items = texts.map .text →
    d.HasPath path →
      FirstOccurrences (texts.map Text.upper) (found.map (·.method)) ∧ ∀ e ∈ found, e.path = path
  unlisted : ∀ router a, d.Applies router config.routeDecorator → d.keyword? "methods" = some a →
    (a.value = none ∨ a.value = some (.list []) ∨
      ∃ items, a.value = some (.list items) ∧ ∃ v ∈ items, ∀ s, v ≠ .text s) → found = []
  /-- A verb is a method of its own. -/
  verb : ∀ router member, d.Applies router member → member ≠ config.routeDecorator →
    config.routeVerbs.has member = true →
      found.length ≤ 1 ∧
      ∀ path, d.HasPath path →
        found.map (fun e => (e.method, e.path)) = [(Text.upper member, path)]

theorem Decorator.binds_endpoints (config : Config) (hint : Option String) (handler : String)
    (d : Decorator) : d.Binds config handler (d.endpoints config hint handler) where
  alike := by
    rcases endpoints_cases config hint handler d with
      hnil | ⟨router, member, path, methods, framework, happlies, _, _, hbound⟩
    · exact ⟨"", "", "", by simp [hnil]⟩
    · refine ⟨path, framework, router, fun e he => ?_⟩
      rw [hbound] at he
      obtain ⟨method, _, rfl⟩ := List.mem_map.mp he
      exact ⟨⟨member, happlies⟩, rfl, rfl, rfl, rfl, rfl⟩
  distinct := by
    rcases endpoints_cases config hint handler d with
      hnil | ⟨router, member, path, methods, framework, _, _, hbinding, hbound⟩
    · rw [hnil]
      exact List.nodup_nil
    · rw [hbound, map_method_bound]
      exact nodup_routeBinding? hbinding
  listed := by
    intro router a items texts path happlies hmethods ha hitems hpath
    rw [endpoints_eq happlies, routeBinding?_route, routePath?_eq_some_iff.mpr hpath]
    dsimp only
    rw [map_method_bound, routeMethods_of_list hmethods ha, hitems, allTexts?_map_text]
    refine ⟨firstOccurrences_spec _, fun e he => ?_⟩
    obtain ⟨method, _, rfl⟩ := List.mem_map.mp he
    rfl
  unlisted := by
    intro router a happlies hmethods ha
    apply endpoints_of_no_methods happlies
    rcases ha with ha | ha | ⟨items, ha, v, hv, htext⟩
    · exact routeMethods_of_unread hmethods ha
    · rw [routeMethods_of_list hmethods ha]
      rfl
    · rw [routeMethods_of_list hmethods ha, allTexts?_eq_none hv htext]
      rfl
  verb := by
    intro router member happlies hroute hverb
    rw [endpoints_eq happlies, routeBinding?_verb hroute hverb]
    refine ⟨?_, fun path hpath => ?_⟩
    · cases d.routePath? with
      | none => exact Nat.zero_le 1
      | some path => exact Nat.le_refl 1
    · rw [routePath?_eq_some_iff.mpr hpath]
      rfl

/-- The endpoints of a decorator differ in their methods alone, and each method occurs once: those that
a route lists, in the order of their first occurrence, or the one of a verb. The endpoints of a file
are those of its functions and methods, decorator by decorator, as far as the stage gets. -/
theorem one_endpoint_per_method :
    (∀ (config : Config) (hint : Option String) (handler : String) (d : Decorator),
      d.Binds config handler (d.endpoints config hint handler)) ∧
    ∀ (config : Config) (misfits : Misfits) (faults : Faults) (file module : String) (src : Source)
      (root : Node), root.kind = "module" → moduleName file = .ok module →
      ∃ facts, analyzeFile config faults file src (some root) misfits = .ok (.facts facts) ∧
        facts.endpoints = sortBy (thenBy (compareOn (·.line.rank)) (compareOn (·.handler)))
          (fileEndpoints config misfits faults file src root) ∧
        fileEndpoints config misfits faults file src root <+:
          decoratedEndpoints config faults file src root ∧
        (faults .endpoints = none → misfits.routeVerbs = none →
          fileEndpoints config misfits faults file src root =
            decoratedEndpoints config faults file src root) := by
  refine ⟨Decorator.binds_endpoints, ?_⟩
  intro config misfits faults file module src root hkind hname
  refine ⟨_, analyzeFile_module config misfits faults file module src root hkind hname, ?_, ?_, ?_⟩
  · exact moduleFacts_endpoints config misfits faults file module src root
  · exact fileEndpoints_prefix config misfits faults file src root
  · exact fileEndpoints_eq config misfits faults file src root

/-- The tree of a decorator that calls a member of a router with a name of one letter. -/
def callingDecorator (memberStop stop : Nat) (arguments : List Node) : Node :=
  .node { kind := "decorator", start := 0, stop }
    [token "@" 0 1, methodCall 1 2 memberStop stop arguments]

/-- The tree of a function under such a decorator. -/
def routedBy (memberStop stop : Nat) (arguments : List Node) : Node :=
  .node { kind := "decorated_definition", start := 0, stop := stop + 14 }
    [callingDecorator memberStop stop arguments,
     letterFunction (stop + 1) (stop + 14) (some "definition") (idleBody (stop + 10))]

def keywordArgument (start nameStop stop : Nat) (kind : String) (content : List Node) : Node :=
  .node { kind := "keyword_argument", start, stop }
    [.node { kind := "identifier", start, stop := nameStop, field := some "name" } [],
     token "=" nameStop (nameStop + 1),
     .node { kind, start := nameStop + 1, stop, field := some "value" } content]

/-- A route that lists a method twice, in capitals and not, has one endpoint. -/
theorem one_endpoint_per_method_getTwice :
    let methods : Argument :=
      { text := "[\"get\",\"GET\"]", keyword := some "methods"
        value := some (.list [.text "get", .text "GET"]) }
    let d : Decorator :=
      { text := "a.route(\"/u\",methods=[\"get\",\"GET\"])", callee := some "a.route", line := some 1
        isCall := true, arguments := [{ text := "\"/u\"", value := some (.text "/u") }, methods] }
    let src := plainSource "@a.route(\"/u\",methods=[\"get\",\"GET\"])\ndef f(): pass\n"
    let root := moduleOf 51 [routedBy 8 36
      [address 9, token "," 13 14,
       keywordArgument 14 21 35 "list"
        [token "[" 22 23, .node { kind := "string", start := 23, stop := 28 } [], token "," 28 29,
         .node { kind := "string", start := 29, stop := 34 } [], token "]" 34 35]]]
    d.Applies "a" "route" ∧ d.HasPath "/u" ∧
    FirstOccurrences ["GET", "GET"] ((d.endpoints {} none "f").map (·.method)) ∧
    root.kind = "module" ∧ moduleName "m.py" = .ok "m" ∧
    ∃ facts, analyzeFile {} Faults.none "m.py" src (some root) = .ok (.facts facts) ∧
      facts.endpoints = sortBy (thenBy (compareOn (·.line.rank)) (compareOn (·.handler)))
        (decoratedEndpoints {} Faults.none "m.py" src root) ∧
      (decoratedEndpoints {} Faults.none "m.py" src root).map (fun e => (e.method, e.path, e.handler)) =
        [("GET", "/u", "f")] := by
  intro methods d src root
  have happlies : d.Applies "a" "route" := ⟨rfl, rfl, by decide⟩
  have hpath : d.HasPath "/u" := .positional rfl rfl
  obtain ⟨hbinds, hfile⟩ := one_endpoint_per_method
  have hlisted := (hbinds {} none "f" d).listed "a" methods _ ["get", "GET"] "/u" happlies rfl rfl rfl hpath
  obtain ⟨facts, hfacts, hsorted, _, hall⟩ := hfile {} {} Faults.none "m.py" "m" src root rfl rfl
  rw [hall rfl rfl] at hsorted
  exact ⟨happlies, hpath, hlisted.1, rfl, rfl, facts, hfacts, hsorted, by decide +kernel⟩

end SourceFacts
