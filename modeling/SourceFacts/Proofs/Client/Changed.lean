import SourceFacts.Proofs.Client.Alike

/-!
# One change in an address

Two nodes that are written alike but for one place. What the readers of strings and of addresses find in
them differs as what they find in that place, put among the same other texts.
-/

namespace SourceFacts

open StringText

namespace Node

/-! ## Changes -/

/-- The roles of names and signs, which hold no expression. -/
def wordRoles : List String := ["attribute", "operator", "name"]

/-- The kinds of arguments that are spread or given for a keyword. -/
def passedKinds : List String := ["keyword_argument", "list_splat", "dictionary_splat"]

/-- The second node is the first one with a change in one place, or of all of it. The place is not below a
literal, and it is no name and no sign. -/
inductive ChangedIn (src src' : Source) (change : Node → Node → Prop) : Node → Node → Prop where
  | here {n n' : Node} (h : change n n') : ChangedIn src src' change n n'
  | inside {l l' : Label} {before before' after after' : List Node} {c c' : Node}
      (hliteral : l.kind ≠ "string") (hkind : l'.kind = l.kind) (hfield : l'.field = l.field)
      (hnamed : l'.isNamed = l.isNamed) (hrole : ∀ f ∈ wordRoles, c.field ≠ some f)
      (hbefore : areWrittenAlike src src' before before' = true)
      (h : ChangedIn src src' change c c')
      (hafter : areWrittenAlike src src' after after' = true) :
      ChangedIn src src' change (.node l (before ++ c :: after)) (.node l' (before' ++ c' :: after'))

/-- The nodes are written alike, but for a change in one place at most. -/
inductive Changed (src src' : Source) (change : Node → Node → Prop) (n n' : Node) : Prop where
  | same (h : WrittenAlike src src' n n')
  | put (h : ChangedIn src src' change n n')

/-- How the readers take a change: as one relation of strings and another one of the texts of addresses.
Both hold on among other texts, and the second one for templates. -/
structure ReadAs (src src' : Source) (change : Node → Node → Prop)
    (string address : Option StringText → Option StringText → Prop) : Prop where
  field : ∀ n n', change n n' → n'.field = n.field
  isContent : ∀ n n', change n n' → n'.isContent = n.isContent
  passed : ∀ n n', change n n' → n.kind ∉ passedKinds ∧ n'.kind ∉ passedKinds
  role : ∀ n n', change n n' → n.field ≠ some "arguments"
  ofString : ∀ n n', change n n' → string (stringText? src n) (stringText? src' n')
  ofAddress : ∀ n n', change n n' → address (addressText? src n) (addressText? src' n')
  ofFunction : ∀ n n', change n n' → n.field = some "function" →
    address (n.formatted? src) (n'.formatted? src')
  refl : ∀ t, string t t
  isSome : ∀ t t', string t t' → t'.isSome = t.isSome
  joined : ∀ before after t t', string t t' →
    string (all? (before ++ t :: after)) (all? (before ++ t' :: after))
  weaken : ∀ t t', string t t' → address t t'
  template : ∀ t t', string t t' →
    address (t.map fun t => { t with isTemplate := true }) (t'.map fun t => { t with isTemplate := true })
  added : ∀ before after t t', address t t' →
    address (all? (before ++ t :: after)) (all? (before ++ t' :: after))

/-- What a node has in common with one that is changed inside. -/
structure Holds (src src' : Source) (change : Node → Node → Prop) (n n' : Node) : Prop where
  kind : n'.kind = n.kind
  isContent : n'.isContent = n.isContent
  notLiteral : n.kind ≠ "string"
  split : ∃ before before' after after' c c', n.children = before ++ c :: after ∧
    n'.children = before' ++ c' :: after' ∧ List.Forall₂ (WrittenAlike src src') before before' ∧
    List.Forall₂ (WrittenAlike src src') after after' ∧ ChangedIn src src' change c c'
  words : ∀ f ∈ wordRoles, Option.Rel (WrittenAlike src src') (n.child? f) (n'.child? f)

theorem field_of_child? {n c : Node} {f : String} (h : n.child? f = some c) : c.field = some f :=
  beq_iff_eq.mp (List.find?_some (p := hasField f) h)

section Changed

variable {src src' : Source} {change : Node → Node → Prop}
  {string address : Option StringText → Option StringText → Prop} {n n' : Node}
  (hr : ReadAs src src' change string address)

include hr

theorem ChangedIn.field_eq (h : ChangedIn src src' change n n') : n'.field = n.field := by
  cases h with
  | here h => exact hr.field _ _ h
  | inside _ _ hfield => exact hfield

omit hr in
/-- A child in a role is the same if the child that is not the same has another role. -/
theorem child?_middle {l l' : Label} {before before' after after' : List Node} {c c' : Node}
    (hbefore : areWrittenAlike src src' before before' = true)
    (hafter : areWrittenAlike src src' after after' = true) {f : String} (hc : c.field ≠ some f)
    (hc' : c'.field ≠ some f) :
    Option.Rel (WrittenAlike src src') ((node l (before ++ c :: after)).child? f)
      ((node l' (before' ++ c' :: after')).child? f) := by
  have hskip : ∀ {c : Node}, c.field ≠ some f → ∀ (l : Label) (before after : List Node),
      (node l (before ++ c :: after)).child? f = (before ++ after).find? (hasField f) := by
    intro c hc l before after
    have hnot : hasField f c = false := beq_eq_false_iff_ne.mpr hc
    rw [child?, children_node, List.find?_append, List.find?_append, List.find?_cons, hnot]
  rw [hskip hc, hskip hc']
  exact find?_related (List.rel_append (forall₂_of_areWrittenAlike hbefore)
    (forall₂_of_areWrittenAlike hafter)) fun _ _ h => by rw [hasField, hasField, h.field]

theorem ChangedIn.cases (h : ChangedIn src src' change n n') :
    change n n' ∨ Holds src src' change n n' := by
  cases h with
  | here h => exact Or.inl h
  | inside hliteral hkind _ hnamed hrole hbefore h hafter =>
      refine Or.inr ⟨hkind, ?_, hliteral, ?_, fun f hf => ?_⟩
      · rw [isContent, isContent, label_node, label_node, hnamed, Node.kind, Node.kind, label_node,
          label_node, hkind]
      · exact ⟨_, _, _, _, _, _, rfl, rfl, forall₂_of_areWrittenAlike hbefore,
          forall₂_of_areWrittenAlike hafter, h⟩
      · exact child?_middle hbefore hafter (hrole f hf) (h.field_eq hr ▸ hrole f hf)

theorem Changed.cases (h : Changed src src' change n n') :
    WrittenAlike src src' n n' ∨ change n n' ∨ Holds src src' change n n' := by
  cases h with
  | same h => exact Or.inl h
  | put h => exact Or.inr (h.cases hr)

theorem Changed.field_eq (h : Changed src src' change n n') : n'.field = n.field := by
  cases h with
  | same h => exact h.field
  | put h => exact h.field_eq hr

theorem Changed.isContent_eq (h : Changed src src' change n n') : n'.isContent = n.isContent := by
  rcases h.cases hr with h | h | h
  · exact h.isContent
  · exact hr.isContent _ _ h
  · exact h.isContent

omit hr in
theorem Holds.children (h : Holds src src' change n n') :
    List.Forall₂ (Changed src src' change) n.children n'.children := by
  obtain ⟨_, _, _, _, _, _, hn, hn', hbefore, hafter, hc⟩ := h.split
  rw [hn, hn']
  exact List.rel_append (hbefore.imp fun _ _ => .same) (.cons (.put hc) (hafter.imp fun _ _ => .same))

theorem Holds.child? (h : Holds src src' change n n') (f : String) :
    Option.Rel (Changed src src' change) (n.child? f) (n'.child? f) :=
  find?_related h.children fun c c' hc => by rw [hasField, hasField, hc.field_eq hr]

omit hr in
theorem Holds.map_text_child? (h : Holds src src' change n n') {f : String} (hf : f ∈ wordRoles) :
    (n'.child? f).map src'.text = (n.child? f).map src.text :=
  option_map_eq_of_related (h.words f hf) fun _ _ hc => hc.text

theorem Holds.contents (h : Holds src src' change n n') :
    List.Forall₂ (Changed src src' change) n.contents n'.contents :=
  filter_related h.children fun _ _ hc => hc.isContent_eq hr

/-- What is read off the contents is the same, or one text among the others is not. -/
theorem Holds.texts {read : Source → Node → Option StringText}
    {related : Option StringText → Option StringText → Prop} (h : Holds src src' change n n')
    (hsame : ∀ c c', WrittenAlike src src' c c' → read src' c' = read src c)
    (hread : ∀ c ∈ n.children, ∀ c', Changed src src' change c c' → related (read src c) (read src' c')) :
    n'.contents.map (read src') = n.contents.map (read src) ∨
      ∃ before after t t', n.contents.map (read src) = before ++ t :: after ∧
        n'.contents.map (read src') = before ++ t' :: after ∧ related t t' := by
  obtain ⟨before, before', after, after', c, c', hn, hn', hbefore, hafter, hc⟩ := h.split
  have halike : ∀ {ns ns' : List Node}, List.Forall₂ (WrittenAlike src src') ns ns' →
      (ns'.filter Node.isContent).map (read src') = (ns.filter Node.isContent).map (read src) :=
    fun hns => map_eq_of_related (filter_related hns fun _ _ h => h.isContent) hsame
  have hcontent := (Changed.put hc).isContent_eq hr
  rw [Node.contents, Node.contents, hn, hn']
  simp only [List.filter_append, List.filter_cons, List.map_append, hcontent, halike hbefore]
  split
  · refine Or.inr ⟨_, _, read src c, read src' c', rfl, ?_, hread c (by simp [hn]) c' (.put hc)⟩
    rw [List.map_cons, halike hafter]
  · exact Or.inl (by rw [halike hafter])

end Changed

end Node

open Node

section Read

variable {src src' : Source} {change : Node → Node → Prop}
  {string address : Option StringText → Option StringText → Prop} {n n' : Node}
  (hr : ReadAs src src' change string address)

include hr

/-! ## Strings and addresses -/

theorem stringText?_changed (h : Changed src src' change n n') :
    string (stringText? src n) (stringText? src' n') := by
  induction n using Node.inductionOnChildren generalizing n' with
  | step n ih =>
  rcases h.cases hr with hsame | hchange | hin
  · rw [stringText?_writtenAlike hsame]
    exact hr.refl _
  · exact hr.ofString _ _ hchange
  · rcases hin.texts hr (fun _ _ => stringText?_writtenAlike) (fun c hc c' => ih c hc) with
      hsame | ⟨before, after, t, t', ht, ht', hrelated⟩
    · rw [stringText?_congr hin.kind (fun hliteral => absurd hliteral hin.notLiteral) hsame]
      exact hr.refl _
    by_cases hadjacent : n.kind = "concatenated_string"
    · rw [stringText?_adjacent hadjacent, stringText?_adjacent (hin.kind.trans hadjacent), ht, ht']
      exact hr.joined before after t t' hrelated
    by_cases hparens : n.kind = "parenthesized_expression"
    · -- only a single expression is looked at
      rw [stringText?_parens_all hparens, stringText?_parens_all (hin.kind.trans hparens),
        (hin.contents hr).length_eq, ht, ht']
      split
      · exact hr.joined before after t t' hrelated
      · exact hr.refl none
    · have hother : n.kind ∉ stringKinds := by
        simp [stringKinds, hin.notLiteral, hadjacent, hparens]
      rw [stringText?_of_kind hother, stringText?_of_kind (hin.kind ▸ hother)]
      exact hr.refl _

theorem formatted?_holds (h : Holds src src' change n n') :
    address (n.formatted? src) (n'.formatted? src') := by
  have hobject : string ((n.child? "object").bind (stringText? src))
      ((n'.child? "object").bind (stringText? src')) := by
    have hchild := h.child? hr "object"
    revert hchild
    generalize n.child? "object" = o
    generalize n'.child? "object" = o'
    intro hchild
    cases hchild with
    | none => exact hr.refl none
    | some hc => exact stringText?_changed hr hc
  rw [formatted?, formatted?, h.kind, Source.textOf_eq, Source.textOf_eq, h.map_text_child? (by decide)]
  split
  · exact hr.template _ _ hobject
  · exact hr.weaken _ _ (hr.refl none)

theorem formatText?_holds (h : Holds src src' change n n') :
    address (n.formatText? src) (n'.formatText? src') := by
  rw [formatText?_eq, formatText?_eq, h.kind]
  have hnone : address none none := hr.weaken _ _ (hr.refl none)
  split
  · have hfunction := h.child? hr "function"
    have hrole : ∀ c, n.child? "function" = some c → c.field = some "function" := fun _ => field_of_child?
    revert hfunction hrole
    generalize n.child? "function" = f
    generalize n'.child? "function" = f'
    intro hfunction hrole
    cases hfunction with
    | none => exact hnone
    | some hf =>
        rw [Option.bind_some, Option.bind_some]
        rcases hf.cases hr with hsame | hchange | hin
        · rw [formatted?_writtenAlike hsame]
          exact hr.weaken _ _ (hr.refl _)
        · exact hr.ofFunction _ _ hchange (hrole _ rfl)
        · exact formatted?_holds hr hin
  · exact hnone

theorem addressText?_changed (h : Changed src src' change n n') :
    address (addressText? src n) (addressText? src' n') := by
  induction n using Node.inductionOnChildren generalizing n' with
  | step n ih =>
  rcases h.cases hr with hsame | hchange | hin
  · rw [addressText?_writtenAlike hsame]
    exact hr.weaken _ _ (hr.refl _)
  · exact hr.ofAddress _ _ hchange
  · have hsame : n'.isSum src' = n.isSum src :=
      isSum_congr hin.kind (hin.contents hr).length_eq.symm (hin.map_text_child? (by decide))
    cases hsum : n.isSum src with
    | true =>
        rw [addressText?_of_sum hsum, addressText?_of_sum (hsame.trans hsum)]
        rcases hin.texts hr (fun _ _ => addressText?_writtenAlike) (fun c hc c' => ih c hc) with
          hsame | ⟨before, after, t, t', ht, ht', hrelated⟩
        · rw [hsame]
          exact hr.weaken _ _ (hr.refl _)
        · rw [ht, ht']
          exact hr.added before after t t' hrelated
    | false =>
        rw [addressText?_of_not_sum hsum, addressText?_of_not_sum (hsame.trans hsum)]
        have hstring := stringText?_changed hr h
        have hsome := hr.isSome _ _ hstring
        cases htext : stringText? src n with
        | none =>
            rw [htext] at hsome
            have hnone : stringText? src' n' = none :=
              Option.not_isSome_iff_eq_none.mp (by rw [hsome]; decide)
            rw [hnone]
            exact formatText?_holds hr hin
        | some t =>
            rw [htext] at hsome hstring
            obtain ⟨t', ht'⟩ := Option.isSome_iff_exists.mp hsome
            rw [ht'] at hstring ⊢
            exact hr.weaken _ _ hstring

/-! ## Arguments -/

theorem passedAlike_changed (h : Changed src src' change n n') :
    CallArguments.PassedAlike (Changed src src' change) src src' n n' := by
  rcases h.cases hr with hsame | hchange | hin
  · exact .of_kind hsame.kind (hsame.map_text_child? "name")
      (option_related_imp (hsame.child? "value") fun _ _ => .same) h
  · obtain ⟨hkind, hkind'⟩ := hr.passed _ _ hchange
    simp only [passedKinds, List.mem_cons, List.not_mem_nil, or_false, not_or] at hkind hkind'
    exact .positional hkind.1 hkind'.1 (by simp [isSplat, hkind]) (by simp [isSplat, hkind']) h
  · exact .of_kind hin.kind (hin.map_text_child? (by decide)) (hin.child? hr "value") h

theorem listedAlike_changed (h : Changed src src' change n n') (hrole : n.field = some "arguments") :
    ListedAlike (Changed src src' change) src src' n n' := by
  rcases h.cases hr with hsame | hchange | hin
  · exact ⟨hsame.kind, hsame.contents.imp fun _ _ hc => passedAlike_changed hr (.same hc)⟩
  · exact absurd hrole (hr.role _ _ hchange)
  · exact ⟨hin.kind, (hin.contents hr).imp fun _ _ hc => passedAlike_changed hr hc⟩

omit hr in
/-- The lists of arguments of two calls are written alike, but for a change in one place at most. -/
def ChangedArguments (src src' : Source) (change : Node → Node → Prop) (n n' : Node) : Prop :=
  Option.Rel (Changed src src' change) (n.child? "arguments") (n'.child? "arguments")

theorem callArguments_changed (h : ChangedArguments src src' change n n') :
    (n.callArguments src).Related (Changed src src' change) (n'.callArguments src') := by
  apply callArguments_related
  have hrole : ∀ c, n.child? "arguments" = some c → c.field = some "arguments" := fun _ => field_of_child?
  unfold ChangedArguments at h
  revert hrole h
  generalize n.child? "arguments" = list
  generalize n'.child? "arguments" = list'
  intro h hrole
  cases h with
  | none => exact .none
  | some h => exact .some (listedAlike_changed hr h (hrole _ rfl))

end Read

end SourceFacts
