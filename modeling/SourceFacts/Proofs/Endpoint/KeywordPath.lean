import SourceFacts.Proofs.Call.SelfCall
import SourceFacts.Proofs.Endpoint.Route

/-!
# Paths given by keywords

A decorator without positional arguments takes its path from `path`, else from `rule`. A mapping that is
spread over the arguments counts as a positional one without a value, so beside it no keyword is asked
and nothing is bound.
-/

namespace SourceFacts

namespace Node

variable {src : Source} {n receiver member list : Node}

/-! ## Arguments with keywords -/

/-- The argument is given for the keyword. -/
def isKeyword (src : Source) (name : String) (a : Node) : Bool :=
  a.kind == "keyword_argument" && src.textOf (a.child? "name") == name

/-- The first argument of a list that is given for the keyword. -/
def keyword? (src : Source) (list : Node) (name : String) : Option Node :=
  list.contents.find? (isKeyword src name)

theorem keyword_argument_eq {name : String} (hname : name ≠ "") (a : Node) :
    ((a.argument src).keyword == some name) = a.isKeyword src name := by
  unfold argument isKeyword
  cases a.kind == "keyword_argument" with
  | true =>
      rw [if_pos rfl, Bool.true_and]
      unfold nonEmpty?
      split
      · rename_i hempty
        have htext : src.textOf (a.child? "name") = "" := String.isEmpty_iff.mp hempty
        rw [htext]
        simpa using Ne.symm hname
      · simp
  | false =>
      rw [if_neg Bool.false_ne_true, Bool.false_and]
      split <;> rfl

theorem value_argument {name : String} {a : Node} (h : a.isKeyword src name = true) :
    (a.argument src).value = (a.child? "value").bind (literal? src) := by
  rw [argument, if_pos (Bool.and_eq_true_iff.mp h).1]

theorem argument_of_spread {a : Node} (h : a.kind = "dictionary_splat") :
    a.argument src = { text := src.text a } := by
  simp [argument, isSplat, h]

/-- A call of a member spells the name of its receiver, if that has one, and the member. -/
theorem AppliesMember.callee? {call : Node} (h : call.AppliesMember receiver member) :
    call.callee? src =
      (dottedName? src receiver).map fun router => router ++ "." ++ src.text member := by
  obtain ⟨⟨l, cs⟩, hf, hkind, hobject, hmember⟩ := h
  change l.kind = "attribute" at hkind
  rw [Node.callee?, hf, Option.bind_some, dottedName?, objectName?_eq]
  change cs.find? _ = _ at hobject
  change cs.find? _ = _ at hmember
  rw [hkind, hobject, hmember, Option.bind_some]
  cases dottedName? src receiver <;> rfl

/-- The argument is given for a keyword, or it spreads a mapping. -/
def IsNamedOrSpread (src : Source) (a : Node) : Prop :=
  a.kind = "dictionary_splat" ∨ ∃ name, name ≠ "" ∧ a.isKeyword src name = true

/-- The decorator calls a member with keywords and spread mappings only. -/
structure KeywordCall (src : Source) (n receiver member list : Node) : Prop where
  applied : ∃ call, n.contents.head? = some call ∧ call.kind = "call" ∧
    call.AppliesMember receiver member ∧ call.child? "arguments" = some list
  isList : list.kind = "argument_list"
  simple : '.' ∉ (src.text member).toList
  named : ∀ a ∈ list.contents, a.IsNamedOrSpread src

/-- The keywords give the path: `path`, else `rule`. -/
inductive KeywordPath (src : Source) (list : Node) : String → Prop where
  | path {a value : Node} {path : String} (h : list.keyword? src "path" = some a)
      (hvalue : a.child? "value" = some value) (htext : literal? src value = some (.text path)) :
      KeywordPath src list path
  | rule {a value : Node} {path : String} (hnone : list.keyword? src "path" = none)
      (h : list.keyword? src "rule" = some a) (hvalue : a.child? "value" = some value)
      (htext : literal? src value = some (.text path)) : KeywordPath src list path

/-- The member is a verb, or the name of routes with methods that are not given or written out. -/
inductive WritesMethods (config : Config) (src : Source) (list : Node) : String → Prop where
  | verb {member : String} (hroute : member ≠ config.routeDecorator)
      (hverb : config.routeVerbs.has member = true) : WritesMethods config src list member
  | usual (h : list.keyword? src "methods" = none) : WritesMethods config src list config.routeDecorator
  | listed {a value : Node} {texts : List String} (h : list.keyword? src "methods" = some a)
      (hvalue : a.child? "value" = some value)
      (htexts : literal? src value = some (.list (texts.map .text))) (hne : texts ≠ []) :
      WritesMethods config src list config.routeDecorator

/-- The decorator as it is read. -/
theorem KeywordCall.exists_decorator (h : n.KeywordCall src receiver member list) :
    ∃ d, n.decorator? src = some d ∧ d.isCall = true ∧
      d.callee = (dottedName? src receiver).map (fun router => router ++ "." ++ src.text member) ∧
      d.arguments = list.contents.map (·.argument src) := by
  obtain ⟨call, hhead, hkind, hmember, harguments⟩ := h.applied
  have hcall : (call.kind == "call") = true := beq_iff_eq.mpr hkind
  have hlist : (list.kind == "argument_list") = true := beq_iff_eq.mpr h.isList
  refine ⟨_, by rw [decorator?, hhead, Option.map_some, if_pos hcall], rfl, hmember.callee?, ?_⟩
  rw [harguments]
  exact if_pos hlist

/-- The value of a keyword that is given, as it is written. -/
theorem value_of_keyword? {name : String} {a value : Node} {v : Literal}
    (h : list.keyword? src name = some a) (hvalue : a.child? "value" = some value)
    (hv : literal? src value = some v) : (a.argument src).value = some v := by
  rw [value_argument (List.find?_some h), hvalue, Option.bind_some, hv]

end Node

namespace Decorator

variable {src : Source} {receiver member list : Node} {d : Decorator}

section Read

variable (hd : d.arguments = list.contents.map (·.argument src))

include hd

theorem keyword?_eq {name : String} (hname : name ≠ "") :
    d.keyword? name = (list.keyword? src name).map (·.argument src) := by
  rw [keyword?, hd, List.find?_map, Node.keyword?]
  congr 2
  funext a
  exact Node.keyword_argument_eq hname a

/-- What is spread is all that is positional, and it has no value. -/
theorem value_of_mem_positional (hnamed : ∀ a ∈ list.contents, a.IsNamedOrSpread src)
    {p : Argument} (hp : p ∈ d.positional) :
    p.value = none ∧ ∃ a ∈ list.contents, a.kind = "dictionary_splat" := by
  obtain ⟨hmem, hkeyword⟩ := List.mem_filter.mp hp
  rw [hd] at hmem
  obtain ⟨a, ha, rfl⟩ := List.mem_map.mp hmem
  rcases hnamed a ha with hspread | ⟨name, hname, hgiven⟩
  · rw [Node.argument_of_spread hspread]
    exact ⟨rfl, a, ha, hspread⟩
  · rw [← Node.keyword_argument_eq hname, beq_iff_eq] at hgiven
    rw [hgiven] at hkeyword
    exact absurd hkeyword (by simp)

theorem positional_of_spread {a : Node} (ha : a ∈ list.contents) (h : a.kind = "dictionary_splat") :
    a.argument src ∈ d.positional := by
  refine List.mem_filter.mpr ⟨hd ▸ List.mem_map_of_mem ha, ?_⟩
  rw [Node.argument_of_spread h]
  rfl

theorem hasPath_of_keywordPath {path : String} (hnone : d.positional = [])
    (h : list.KeywordPath src path) : d.HasPath path := by
  cases h with
  | path h hvalue htext =>
      refine .path hnone ?_ (Node.value_of_keyword? h hvalue htext)
      rw [keyword?_eq hd (by decide), h]
      rfl
  | rule hpath h hvalue htext =>
      refine .rule hnone ?_ ?_ (Node.value_of_keyword? h hvalue htext)
      · rw [keyword?_eq hd (by decide), hpath]
        rfl
      · rw [keyword?_eq hd (by decide), h]
        rfl

theorem exists_routeBinding? (config : Config) (hint : Option String) {name : String}
    (h : list.WritesMethods config src name) :
    ∃ methods framework, methods ≠ [] ∧
      d.routeBinding? config hint name = some (methods, framework) := by
  cases h with
  | verb hroute hverb => exact ⟨_, _, List.cons_ne_nil _ _, routeBinding?_verb hroute hverb⟩
  | usual h =>
      refine ⟨_, _, ?_, routeBinding?_route config hint d⟩
      rw [routeMethods, keyword?_eq hd (by decide), h]
      exact List.cons_ne_nil _ _
  | @listed a value texts h hvalue htexts hne =>
      refine ⟨_, _, ?_, routeBinding?_route config hint d⟩
      have hkeyword : d.keyword? "methods" = some (a.argument src) := by
        rw [keyword?_eq hd (by decide), h]
        rfl
      rw [routeMethods_of_list hkeyword (Node.value_of_keyword? h hvalue htexts), allTexts?_map_text]
      obtain ⟨s, hs⟩ := List.exists_mem_of_ne_nil texts hne
      have hmem := ((firstOccurrences_spec _).mem_iff _).mpr (List.mem_map_of_mem (f := Text.upper) hs)
      exact List.ne_nil_of_mem hmem

end Read

end Decorator

/-- A decorator without positional arguments has the path that its keywords give, unless a mapping is
spread over its arguments or its receiver has no name. Then it has no endpoint. -/
theorem keyword_path_unless_spread (config : Config) (hint : Option String) (handler path : String)
    (src : Source) (n receiver member list : Node) (h : n.KeywordCall src receiver member list)
    (hpath : list.KeywordPath src path)
    (hmethods : list.WritesMethods config src (src.text member)) :
    ∃ d, n.decorator? src = some d ∧
      (∀ router, dottedName? src receiver = some router →
        (∀ a ∈ list.contents, a.kind ≠ "dictionary_splat") →
        ∃ methods framework, methods ≠ [] ∧
          d.endpoints config hint handler = d.bound router path handler framework methods) ∧
      (dottedName? src receiver = none ∨ (∃ a ∈ list.contents, a.kind = "dictionary_splat") →
        d.endpoints config hint handler = []) := by
  obtain ⟨d, hd, hcall, hcallee, harguments⟩ := h.exists_decorator
  refine ⟨d, hd, ?_, ?_⟩
  · intro router hrouter hspread
    have hnone : d.positional = [] := by
      refine List.eq_nil_iff_forall_not_mem.mpr fun p hp => ?_
      obtain ⟨_, a, ha, hkind⟩ := Decorator.value_of_mem_positional harguments h.named hp
      exact hspread a ha hkind
    rw [hrouter] at hcallee
    obtain ⟨methods, framework, hne, hbinding⟩ :=
      Decorator.exists_routeBinding? harguments config hint hmethods
    refine ⟨methods, framework, hne, ?_⟩
    rw [Decorator.endpoints_eq ⟨hcall, hcallee, h.simple⟩, hbinding,
      Decorator.routePath?_eq_some_iff.mpr (Decorator.hasPath_of_keywordPath harguments hnone hpath)]
  · rintro (hnameless | ⟨a, ha, hkind⟩)
    · apply Decorator.endpoints_of_not_applies
      intro router member happlies
      rw [hnameless, happlies.callee] at hcallee
      exact absurd hcallee (by simp)
    · -- The mapping is positional, so the first positional argument decides, and none has a value.
      have hmem := Decorator.positional_of_spread harguments ha hkind
      apply Decorator.endpoints_of_pathless
      intro path hwritten
      cases hwritten with
      | @positional p rest _ hfirst hp =>
          have hvalue := (Decorator.value_of_mem_positional harguments h.named (p := p)
            (hfirst ▸ List.mem_cons_self)).1
          exact absurd (hvalue ▸ hp) (by simp)
      | path hnone => exact absurd (hnone ▸ hmem) List.not_mem_nil
      | rule hnone => exact absurd (hnone ▸ hmem) List.not_mem_nil

/-! ## A path for a keyword -/

/-- The tree of an argument `path="/u"`. -/
def pathArgument (start : Nat) : Node :=
  keywordArgument start (start + 4) (start + 9) "string" (address (start + 5)).children

section PathArgument

variable {src : Source} {list : Node} {before rest : List Node} {start : Nat}
variable (hlist : list.contents = before ++ pathArgument start :: rest)
variable (hname : src.textOf ((pathArgument start).child? "name") = "path")
variable (hbefore : ∀ a ∈ before, ∃ name, name ≠ "" ∧ name ≠ "path" ∧ a.isKeyword src name = true)

include hlist hname hbefore

theorem keyword?_pathArgument : list.keyword? src "path" = some (pathArgument start) := by
  have hothers : ∀ a ∈ before, ¬ a.isKeyword src "path" = true := by
    intro a ha hpath
    obtain ⟨name, _, hother, hkeyword⟩ := hbefore a ha
    have htext := beq_iff_eq.mp (Bool.and_eq_true_iff.mp hkeyword).2
    exact hother (htext.symm.trans (beq_iff_eq.mp (Bool.and_eq_true_iff.mp hpath).2))
  rw [Node.keyword?, hlist, List.find?_append, List.find?_eq_none.mpr hothers, Option.none_or,
    List.find?_cons_of_pos]
  exact Bool.and_eq_true_iff.mpr ⟨rfl, beq_iff_eq.mpr hname⟩

theorem named_pathArgument (hrest : ∀ a ∈ rest, a.kind = "dictionary_splat") :
    ∀ a ∈ list.contents, a.IsNamedOrSpread src := by
  intro a ha
  rw [hlist] at ha
  rcases List.mem_append.mp ha with ha | ha
  · obtain ⟨name, hne, _, hkeyword⟩ := hbefore a ha
    exact Or.inr ⟨name, hne, hkeyword⟩
  rcases List.mem_cons.mp ha with rfl | ha
  · exact Or.inr ⟨"path", by decide, Bool.and_eq_true_iff.mpr ⟨rfl, beq_iff_eq.mpr hname⟩⟩
  · exact Or.inl (hrest a ha)

end PathArgument

/-- The path is found behind another keyword. -/
theorem keyword_path_unless_spread_get :
    let src := plainSource "@a.get(name=n,path=\"/u\")\ndef f(): pass\n"
    let other := keywordArgument 7 11 13 "identifier" []
    let n := callingDecorator 6 24 [other, token "," 13 14, pathArgument 14]
    ∃ receiver member list, n.KeywordCall src receiver member list ∧ list.KeywordPath src "/u" ∧
      list.WritesMethods {} src (src.text member) ∧ list.contents = [other, pathArgument 14] ∧
      ∃ d, n.decorator? src = some d ∧ ∃ methods framework, methods ≠ [] ∧
        d.endpoints {} none "f" = d.bound "a" "/u" "f" framework methods := by
  intro src other n
  have hname : src.textOf ((pathArgument 14).child? "name") = "path" := by decide +kernel
  have hnone : ∀ a ∈ ([] : List Node), a.kind = "dictionary_splat" := by simp
  have hbefore : ∀ a ∈ [other], ∃ name, name ≠ "" ∧ name ≠ "path" ∧ a.isKeyword src name = true := by
    intro a ha
    rw [List.mem_singleton.mp ha]
    exact ⟨"name", by decide, by decide, by decide +kernel⟩
  obtain ⟨receiver, member, list, hcall, hlist, hmember, hreceiver, hpath⟩ :
      ∃ receiver member list, n.KeywordCall src receiver member list ∧
        list.contents = [other, pathArgument 14] ∧ src.text member = "get" ∧
        dottedName? src receiver = some "a" ∧ list.KeywordPath src "/u" :=
    ⟨_, _, _, ⟨⟨_, rfl, rfl, ⟨_, rfl, rfl, rfl, rfl⟩, rfl⟩, rfl, by decide +kernel,
        named_pathArgument rfl hname hbefore hnone⟩,
      rfl, by decide +kernel, by decide +kernel,
      .path (keyword?_pathArgument rfl hname hbefore) rfl rfl⟩
  have hverb : list.WritesMethods {} src (src.text member) := by
    rw [hmember]
    exact .verb (by decide) (by decide)
  have hspread : ∀ a ∈ list.contents, a.kind ≠ "dictionary_splat" := by
    rw [hlist]
    decide
  obtain ⟨d, hd, hbound, _⟩ :=
    keyword_path_unless_spread {} none "f" "/u" src n receiver member list hcall hpath hverb
  exact ⟨receiver, member, list, hcall, hpath, hverb, hlist, d, hd, hbound "a" hreceiver hspread⟩

/-- A mapping that is spread behind the path leaves a decorator without endpoints, and so does a
receiver that is not a name. -/
theorem keyword_path_lost :
    let src := plainSource "@a.get(path=\"/u\",**o)\ndef f(): pass\n"
    let spread : Node := .node { kind := "dictionary_splat", start := 17, stop := 20 }
      [token "**" 17 19, .node { kind := "identifier", start := 19, stop := 20 } []]
    let arguments := [pathArgument 7, token "," 16 17, spread]
    let n := callingDecorator 6 21 arguments
    let src' := plainSource "@g().get(path=\"/u\")\ndef f(): pass\n"
    let receiver' : Node := .node { kind := "call", start := 1, stop := 4, field := some "object" }
      [.node { kind := "identifier", start := 1, stop := 2, field := some "function" } [],
       .node { kind := "argument_list", start := 2, stop := 4, field := some "arguments" }
        [token "(" 2 3, token ")" 3 4]]
    let n' : Node := .node { kind := "decorator", start := 0, stop := 19 }
      [token "@" 0 1, .node { kind := "call", start := 1, stop := 19 }
        [.node { kind := "attribute", start := 1, stop := 8, field := some "function" }
          [receiver', token "." 4 5,
           .node { kind := "identifier", start := 5, stop := 8, field := some "attribute" } []],
         .node { kind := "argument_list", start := 8, stop := 19, field := some "arguments" }
          [token "(" 8 9, pathArgument 9, token ")" 18 19]]]
    (∃ receiver member list, n.KeywordCall src receiver member list ∧ list.KeywordPath src "/u" ∧
      list.WritesMethods {} src (src.text member) ∧ dottedName? src receiver = some "a") ∧
    (n.decorator? src).map (fun d => (d.endpoints {} none "f").map (·.path)) = some [] ∧
    (decoratedEndpoints {} Faults.none "m.py" src (moduleOf 36 [routedBy 6 21 arguments])).map
      (·.path) = [] ∧
    (∃ member list, n'.KeywordCall src' receiver' member list ∧ list.KeywordPath src' "/u" ∧
      list.WritesMethods {} src' (src'.text member) ∧
      ∀ a ∈ list.contents, a.kind ≠ "dictionary_splat") ∧
    (n'.decorator? src').map (fun d => (d.endpoints {} none "f").map (·.path)) = some [] := by
  intro src spread arguments n src' receiver' n'
  have hname : src.textOf ((pathArgument 7).child? "name") = "path" := by decide +kernel
  have hname' : src'.textOf ((pathArgument 9).child? "name") = "path" := by decide +kernel
  have hnone : ∀ a ∈ ([] : List Node), a.kind = "dictionary_splat" := by simp
  have hfirst : ∀ source : Source, ∀ a ∈ ([] : List Node),
      ∃ name, name ≠ "" ∧ name ≠ "path" ∧ a.isKeyword source name = true := by simp
  have hspread : ∀ a ∈ [spread], a.kind = "dictionary_splat" := by
    intro a ha
    rw [List.mem_singleton.mp ha]
    rfl
  refine ⟨⟨_, _, _, ⟨⟨_, rfl, rfl, ⟨_, rfl, rfl, rfl, rfl⟩, rfl⟩, rfl, by decide +kernel,
      named_pathArgument rfl hname (hfirst src) hspread⟩,
      .path (keyword?_pathArgument rfl hname (hfirst src)) rfl rfl,
      .verb (by decide +kernel) (by decide +kernel), by decide +kernel⟩, by decide +kernel,
    by decide +kernel, ⟨_, _, ⟨⟨_, rfl, rfl, ⟨_, rfl, rfl, rfl, rfl⟩, rfl⟩, rfl, by decide +kernel,
      named_pathArgument rfl hname' (hfirst src') hnone⟩,
      .path (keyword?_pathArgument rfl hname' (hfirst src')) rfl rfl,
      .verb (by decide +kernel) (by decide +kernel), ?_⟩, by decide +kernel⟩
  intro a ha
  rw [List.mem_singleton.mp ha]
  decide

end SourceFacts
