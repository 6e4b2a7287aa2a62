import SourceFacts.Proofs.Related
import SourceFacts.Proofs.Syntax.Address
import SourceFacts.Syntax.StringText

/-!
# What an expression spells

The strings that expressions spell, as a relation with one rule a shape: a literal, adjacent literals, a
string in parentheses. Readers of several strings ask for the content of a node alone, and put together
what each of it spells.
-/

namespace SourceFacts

namespace StringText

theorem append_empty (t : StringText) : t.append ⟨"", false⟩ = t := by
  simp [append]

theorem append_assoc (a b c : StringText) : (a.append b).append c = a.append (b.append c) := by
  simp [append, String.append_assoc, Bool.or_assoc]

/-- Several strings written one after the other. -/
def joined (ts : List StringText) : StringText :=
  ⟨String.join (ts.map (·.content)), ts.any (·.isTemplate)⟩

theorem joined_cons (t : StringText) (ts : List StringText) :
    joined (t :: ts) = t.append (joined ts) := by
  simp [joined, append, String.join_cons]

/-- Strings one after the other, if all of them are there. -/
def all? : List (Option StringText) → Option StringText
  | [] => some ⟨"", false⟩
  | none :: _ => none
  | some t :: rest => (all? rest).map t.append

theorem all?_singleton (t : Option StringText) : all? [t] = t := by
  cases t with
  | none => rfl
  | some t => simp [all?, append_empty]

theorem all?_append (ts us : List (Option StringText)) :
    all? (ts ++ us) = (all? ts).bind fun t => (all? us).map t.append := by
  induction ts with
  | nil =>
      cases h : all? us with
      | none => simp [all?, h]
      | some u => simp [all?, h, append]
  | cons t ts ih =>
      cases t with
      | none => rfl
      | some t =>
          rw [List.cons_append, all?, all?, ih]
          cases all? ts <;> cases all? us <;> simp [append_assoc]

theorem all?_map_some (ts : List StringText) : all? (ts.map some) = some (joined ts) := by
  induction ts with
  | nil => rfl
  | cons t ts ih => simp [all?, ih, joined_cons]

theorem all?_eq_none {ts : List (Option StringText)} (h : none ∈ ts) : all? ts = none := by
  induction ts with
  | nil => exact absurd h List.not_mem_nil
  | cons t ts ih =>
      cases t with
      | none => rfl
      | some t => simp [all?, ih (by simpa using h)]

end StringText

open StringText

/-! ## Readers of several strings -/

section Read

variable (src : Source)

theorem joinedText?_eq (ns : List Node) :
    joinedText? src ns = all? ((ns.filter Node.isContent).map (stringText? src)) := by
  induction ns with
  | nil => rfl
  | cons n ns ih =>
      rw [joinedText?, ih]
      by_cases hn : n.isContent = true
      · rw [if_pos hn, List.filter_cons_of_pos hn, List.map_cons]
        cases stringText? src n with
        | none => rfl
        | some t => cases h : all? ((ns.filter Node.isContent).map (stringText? src)) <;> simp [all?, h]
      · rw [if_neg hn, List.filter_cons_of_neg hn]

theorem innerText?_eq (ns : List Node) :
    innerText? src ns = (ns.filter Node.isContent).head?.bind (stringText? src) := by
  induction ns with
  | nil => rfl
  | cons n ns ih =>
      by_cases hn : n.isContent = true
      · simp [innerText?, hn]
      · simp [innerText?, hn, ih]

variable {src} {n : Node}

theorem stringText?_string (h : n.kind = "string") :
    stringText? src n = some ⟨(n.stringParts src).content, (n.stringParts src).isTemplate⟩ := by
  obtain ⟨l, cs⟩ := n
  replace h : l.kind = "string" := h
  rw [stringText?, h]
  rfl

theorem stringText?_adjacent (h : n.kind = "concatenated_string") :
    stringText? src n = all? (n.contents.map (stringText? src)) := by
  obtain ⟨l, cs⟩ := n
  replace h : l.kind = "concatenated_string" := h
  rw [stringText?, h, joinedText?_eq]
  rfl

theorem stringText?_parens (h : n.kind = "parenthesized_expression") :
    stringText? src n =
      if n.contents.length = 1 then n.contents.head?.bind (stringText? src) else none := by
  obtain ⟨l, cs⟩ := n
  replace h : l.kind = "parenthesized_expression" := h
  rw [stringText?, h, innerText?_eq]
  rfl

theorem stringText?_parens_all (h : n.kind = "parenthesized_expression") :
    stringText? src n =
      if n.contents.length = 1 then all? (n.contents.map (stringText? src)) else none := by
  rw [stringText?_parens h]
  split
  · rename_i hlength
    obtain ⟨e, he⟩ := List.length_eq_one_iff.mp hlength
    rw [he, List.map_singleton, all?_singleton]
    rfl
  · rfl

theorem stringText?_inParens {e : Node} (h : n.kind = "parenthesized_expression")
    (he : n.contents = [e]) : stringText? src n = stringText? src e := by
  rw [stringText?_parens h, he]
  rfl

/-- The kinds of the expressions that may spell a string. -/
def stringKinds : List String := ["string", "concatenated_string", "parenthesized_expression"]

theorem stringText?_of_kind (h : n.kind ∉ stringKinds) : stringText? src n = none := by
  obtain ⟨l, cs⟩ := n
  replace h : l.kind ∉ stringKinds := h
  simp only [stringKinds, List.mem_cons, List.not_mem_nil, or_false, not_or] at h
  simp [stringText?, h]

end Read

/-! ## Nodes that are read alike -/

section Alike

variable {src src' : Source}

theorem StringParts.ofChildren?_of_related {cs cs' : List Node}
    (h : List.Forall₂ (fun c c' => c'.kind = c.kind ∧ src'.text c' = src.text c) cs cs') :
    ofChildren? src' cs' = ofChildren? src cs := by
  have hopening := getLast?_related (filter_related h (p := fun c => c.kind == "string_start")
    (q := fun c => c.kind == "string_start") fun c c' hc => by rw [hc.1])
  have hpieces := map_eq_of_related (filter_related h
    (p := fun c => c.kind != "string_start" && c.kind != "string_end")
    (q := fun c => c.kind != "string_start" && c.kind != "string_end") fun c c' hc => by rw [hc.1])
    (f := src.text) (g := src'.text) fun c c' hc => hc.2
  have hplaceholder := any_eq_of_related h (p := fun c => c.kind == "interpolation")
    (q := fun c => c.kind == "interpolation") fun c c' hc => by rw [hc.1]
  unfold ofChildren?
  dsimp only
  rw [hpieces, hplaceholder]
  revert hopening
  generalize (cs.filter fun c => c.kind == "string_start").getLast? = o
  generalize (cs'.filter fun c => c.kind == "string_start").getLast? = o'
  intro hopening
  cases hopening with
  | none => rfl
  | some hc =>
      dsimp only
      rw [hc.2]

/-- A string is read from the kind of a node, from its parts if it is a literal, and from what its
content spells. -/
theorem stringText?_congr {n n' : Node} (hkind : n'.kind = n.kind)
    (hparts : n.kind = "string" → n'.stringParts src' = n.stringParts src)
    (hcontents : n'.contents.map (stringText? src') = n.contents.map (stringText? src)) :
    stringText? src' n' = stringText? src n := by
  by_cases hstring : n.kind = "string"
  · rw [stringText?_string hstring, stringText?_string (hkind.trans hstring), hparts hstring]
  by_cases hadjacent : n.kind = "concatenated_string"
  · rw [stringText?_adjacent hadjacent, stringText?_adjacent (hkind.trans hadjacent), hcontents]
  by_cases hparens : n.kind = "parenthesized_expression"
  · have hlength : n'.contents.length = n.contents.length := by
      simpa using congrArg List.length hcontents
    rw [stringText?_parens_all hparens, stringText?_parens_all (hkind.trans hparens), hlength,
      hcontents]
  · have hother : n.kind ∉ stringKinds := by simp [stringKinds, hstring, hadjacent, hparens]
    rw [stringText?_of_kind hother, stringText?_of_kind (hkind ▸ hother)]

end Alike

/-! ## The strings that expressions spell -/

mutual

/-- The expression spells the string. What stands between the marks of a literal is kept as it is
written, and a literal with a placeholder is a template; without marks the text of the literal tells. -/
inductive Spells (src : Source) : Node → StringText → Prop where
  | marked {n : Node} (hkind : n.kind = "string") (hmark : n.hasChild "string_start" = true) :
      Spells src n
        ⟨String.join ((n.children.filter fun c =>
            c.kind != "string_start" && c.kind != "string_end").map src.text),
          n.hasChild "interpolation"⟩
  | unmarked {n : Node} (hkind : n.kind = "string") (hmark : n.hasChild "string_start" = false) :
      Spells src n
        ⟨(StringParts.ofText (src.text n)).content, (StringParts.ofText (src.text n)).isTemplate⟩
  | adjacent {n : Node} {ts : List StringText} (hkind : n.kind = "concatenated_string")
      (h : SpellEach src n.contents ts) : Spells src n (joined ts)
  | inParens {n e : Node} {t : StringText} (hkind : n.kind = "parenthesized_expression")
      (he : n.contents = [e]) (h : Spells src e t) : Spells src n t

/-- The expressions spell the strings, one each. -/
inductive SpellEach (src : Source) : List Node → List StringText → Prop where
  | nil : SpellEach src [] []
  | cons {n : Node} {ns : List Node} {t : StringText} {ts : List StringText} (h : Spells src n t)
      (hs : SpellEach src ns ts) : SpellEach src (n :: ns) (t :: ts)

end

section Literal

variable {n : Node}

theorem stringParts_marked (src : Source) (h : n.hasChild "string_start" = true) :
    (n.stringParts src).content = String.join ((n.children.filter fun c =>
        c.kind != "string_start" && c.kind != "string_end").map src.text) ∧
      (n.stringParts src).isTemplate = n.hasChild "interpolation" := by
  obtain ⟨c, hc, hkind⟩ := List.any_eq_true.mp h
  have hne : n.children.filter (fun c => c.kind == "string_start") ≠ [] :=
    List.ne_nil_of_mem (List.mem_filter.mpr ⟨hc, hkind⟩)
  rw [Node.stringParts, StringParts.ofChildren?, List.getLast?_eq_some_getLast hne]
  exact ⟨rfl, rfl⟩

theorem stringParts_unmarked (src : Source) (h : n.hasChild "string_start" = false) :
    n.stringParts src = StringParts.ofText (src.text n) := by
  have hnil : n.children.filter (fun c => c.kind == "string_start") = [] :=
    List.filter_eq_nil_iff.mpr (List.any_eq_false.mp h)
  rw [Node.stringParts, StringParts.ofChildren?, hnil]
  rfl

theorem spells_string {src : Source} (h : n.kind = "string") :
    Spells src n ⟨(n.stringParts src).content, (n.stringParts src).isTemplate⟩ := by
  cases hmark : n.hasChild "string_start" with
  | true =>
      obtain ⟨hcontent, htemplate⟩ := stringParts_marked src hmark
      rw [hcontent, htemplate]
      exact .marked h hmark
  | false =>
      rw [stringParts_unmarked src hmark]
      exact .unmarked h hmark

end Literal

theorem spellEach_of_all? {src : Source} {ns : List Node}
    (hspells : ∀ n ∈ ns, ∀ t, stringText? src n = some t → Spells src n t) {t : StringText}
    (h : all? (ns.map (stringText? src)) = some t) : ∃ ts, SpellEach src ns ts ∧ joined ts = t := by
  induction ns generalizing t with
  | nil => exact ⟨[], .nil, Option.some.inj h⟩
  | cons n ns ih =>
      rw [List.map_cons] at h
      cases htext : stringText? src n with
      | none =>
          rw [htext] at h
          exact absurd h (by simp [all?])
      | some u =>
          rw [htext, all?] at h
          obtain ⟨rest, hrest, rfl⟩ := Option.map_eq_some_iff.mp h
          obtain ⟨ts, hts, rfl⟩ := ih (fun m hm => hspells m (List.mem_cons_of_mem n hm)) hrest
          exact ⟨u :: ts, .cons (hspells n List.mem_cons_self u htext) hts, joined_cons u ts⟩

theorem spells_of_stringText? {src : Source} (n : Node) :
    ∀ t, stringText? src n = some t → Spells src n t := by
  induction n using Node.inductionOnChildren with
  | step n ih =>
  intro t h
  have hcontent : ∀ e ∈ n.contents, ∀ t, stringText? src e = some t → Spells src e t :=
    fun e he => ih e (List.mem_filter.mp he).1
  by_cases hstring : n.kind = "string"
  · rw [stringText?_string hstring, Option.some.injEq] at h
    rw [← h]
    exact spells_string hstring
  by_cases hadjacent : n.kind = "concatenated_string"
  · rw [stringText?_adjacent hadjacent] at h
    obtain ⟨ts, hts, rfl⟩ := spellEach_of_all? hcontent h
    exact .adjacent hadjacent hts
  by_cases hparens : n.kind = "parenthesized_expression"
  · rw [stringText?_parens hparens] at h
    split at h
    · rename_i hlength
      obtain ⟨e, he⟩ := List.length_eq_one_iff.mp hlength
      rw [he] at h
      exact .inParens hparens he (hcontent e (he ▸ List.mem_singleton_self e) t h)
    · exact absurd h (by simp)
  · have hother : n.kind ∉ stringKinds := by simp [stringKinds, hstring, hadjacent, hparens]
    rw [stringText?_of_kind hother] at h
    exact absurd h (by simp)

theorem Spells.stringText? {src : Source} {n : Node} {t : StringText} (h : Spells src n t) :
    SourceFacts.stringText? src n = some t := by
  -- By induction on how the string is spelled, together with the strings of adjacent literals.
  refine @Spells.rec src (fun n t _ => SourceFacts.stringText? src n = some t)
    (fun ns ts _ => ns.map (SourceFacts.stringText? src) = ts.map some) ?_ ?_ ?_ ?_ rfl ?_ n t h
  · intro n hkind hmark
    obtain ⟨hcontent, htemplate⟩ := stringParts_marked src hmark
    rw [stringText?_string hkind, hcontent, htemplate]
  · intro n hkind hmark
    rw [stringText?_string hkind, stringParts_unmarked src hmark]
  · intro n ts hkind _ ih
    rw [stringText?_adjacent hkind, ih, all?_map_some]
  · intro n e t hkind he _ ih
    rw [stringText?_inParens hkind he, ih]
  · intro n ns t ts _ _ ih ihs
    rw [List.map_cons, List.map_cons, ih, ihs]

theorem stringText?_eq_some_iff {src : Source} {n : Node} {t : StringText} :
    stringText? src n = some t ↔ Spells src n t :=
  ⟨spells_of_stringText? n t, Spells.stringText?⟩

theorem stringText?_eq_none_iff {src : Source} {n : Node} :
    stringText? src n = none ↔ ∀ t, ¬ Spells src n t := by
  rw [Option.eq_none_iff_forall_ne_some]
  exact forall_congr' fun t => not_congr stringText?_eq_some_iff

/-! ## Quotes -/

section Quote

variable {letters quote body : List Char}

theorem isQuotedBy_self (quote body : List Char) : isQuotedBy (quote ++ body ++ quote) quote = true := by
  have hstart : quote <+: quote ++ body ++ quote := ⟨body ++ quote, (List.append_assoc ..).symm⟩
  have hstop : quote <:+ quote ++ body ++ quote := ⟨quote ++ body, rfl⟩
  simp only [isQuotedBy, Bool.and_eq_true, List.isPrefixOf_iff_prefix, List.isSuffixOf_iff_suffix,
    decide_eq_true_eq, List.length_append]
  exact ⟨⟨hstart, hstop⟩, by omega⟩

theorem isQuotedBy_of_isPrefixOf {cs : List Char} (h : quote.isPrefixOf cs = false) :
    ¬ isQuotedBy cs quote = true := by
  simp [isQuotedBy, h]

theorem isPrefixOf_triple {q : Char} (h : body.head? ≠ some q) :
    [q, q, q].isPrefixOf ([q] ++ body ++ [q]) = false := by
  cases body with
  | nil => simp [List.isPrefixOf]
  | cons c body =>
      have hc : q ≠ c := fun heq => h (congrArg some heq.symm)
      simp [List.isPrefixOf, hc]

/-- The text in a single quote must not begin with the quote: such a text could be taken to stand in a
triple quote. -/
theorem find?_isQuotedBy (hquote : quote ∈ stringQuotes)
    (hbody : quote.length = 1 → body.head? ≠ quote.head?) :
    stringQuotes.find? (isQuotedBy (quote ++ body ++ quote)) = some quote := by
  have hself := isQuotedBy_self quote body
  -- Of the quotes that are tried before, none begins the text.
  simp only [stringQuotes, List.mem_cons, List.not_mem_nil, or_false] at hquote ⊢
  rcases hquote with rfl | rfl | rfl | rfl
  · rw [List.find?_cons_of_pos hself]
  · rw [List.find?_cons_of_neg (isQuotedBy_of_isPrefixOf rfl), List.find?_cons_of_pos hself]
  · have hhead : body.head? ≠ some '"' := hbody rfl
    rw [List.find?_cons_of_neg (isQuotedBy_of_isPrefixOf (isPrefixOf_triple hhead)),
      List.find?_cons_of_neg (isQuotedBy_of_isPrefixOf rfl), List.find?_cons_of_pos hself]
  · have hhead : body.head? ≠ some '\'' := hbody rfl
    rw [List.find?_cons_of_neg (isQuotedBy_of_isPrefixOf rfl),
      List.find?_cons_of_neg (isQuotedBy_of_isPrefixOf (isPrefixOf_triple hhead)),
      List.find?_cons_of_neg (isQuotedBy_of_isPrefixOf rfl), List.find?_cons_of_pos hself]

theorem unquote_quoted (hquote : quote ∈ stringQuotes)
    (hbody : quote.length = 1 → body.head? ≠ quote.head?) : unquote (quote ++ body ++ quote) = body := by
  rw [unquote, find?_isQuotedBy hquote hbody]
  have hlength : (quote ++ body ++ quote).length - 2 * quote.length = body.length := by
    simp only [List.length_append]
    omega
  dsimp only
  rw [hlength, List.append_assoc, List.drop_left, List.take_left]

theorem StringParts.ofText_quoted (hletters : ∀ c ∈ letters, c ∈ stringLetters)
    (hquote : quote ∈ stringQuotes) (hbody : quote.length = 1 → body.head? ≠ quote.head?) :
    StringParts.ofText (String.ofList (letters ++ (quote ++ body ++ quote))) =
      { letters := String.ofList letters
        content := String.ofList body
        isTemplate := (letters.contains 'f' || letters.contains 'F') && body.contains '\x7b' } := by
  have hletter : ∀ c ∈ letters, stringLetters.contains c = true := fun c hc =>
    List.contains_iff_mem.mpr (hletters c hc)
  have hstop : ∀ q ∈ stringQuotes, ∀ rest, (q ++ rest).takeWhile stringLetters.contains = [] ∧
      (q ++ rest).dropWhile stringLetters.contains = q ++ rest := by
    intro q hq rest
    simp only [stringQuotes, List.mem_cons, List.not_mem_nil, or_false] at hq
    rcases hq with rfl | rfl | rfl | rfl <;> exact ⟨rfl, rfl⟩
  obtain ⟨htake, hdrop⟩ := hstop quote hquote (body ++ quote)
  rw [← List.append_assoc] at htake hdrop
  rw [StringParts.ofText, String.toList_ofList, List.takeWhile_append_of_pos hletter,
    List.dropWhile_append_of_pos hletter, htake, hdrop, unquote_quoted hquote hbody, List.append_nil]

end Quote

end SourceFacts
