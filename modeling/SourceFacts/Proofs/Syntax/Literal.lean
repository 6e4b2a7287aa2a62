import Mathlib.Data.List.Forall2
import Mathlib.Logic.Relation
import SourceFacts.Decorator
import SourceFacts.Proofs.Number.Numeral
import SourceFacts.Proofs.Syntax.Path
import SourceFacts.Proofs.Syntax.StringText
import SourceFacts.Proofs.Text.Utf8

/-!
# Values as they are written

A value can be written in many ways: lists in three displays, anything in parentheses, numbers in four
bases, strings in pieces and in parts, with comments between. Each of them is read as the value. Where
one part of a nested display cannot be read, the whole of it cannot.
-/

namespace SourceFacts

/-! ## How values are written -/

/-- The letters and the quote that a string may begin with. -/
def IsOpening (letters quote : List Char) : Prop :=
  (∀ c ∈ letters, c ∈ "rRbBuUfF".toList) ∧
    quote ∈ ["\"\"\"".toList, "'''".toList, "\"".toList, "'".toList]

/-- The expression writes the text. The marks of a literal may be nodes of their own, with any pieces
between them, or stand in its text only. -/
inductive RendersText (src : Source) : Node → String → Prop where
  | marked {n opening closing : Node} {pieces : List Node} {letters quote : List Char}
      (hkind : n.kind = "string") (hchildren : n.children = opening :: (pieces ++ [closing]))
      (hopening : opening.kind = "string_start") (hclosing : closing.kind = "string_end")
      (hpieces : ∀ p ∈ pieces, p.kind ≠ "string_start" ∧ p.kind ≠ "string_end")
      (hletters : IsOpening letters quote)
      (hstart : src.text opening = String.ofList (letters ++ quote))
      (hstop : src.text closing = String.ofList quote) :
      RendersText src n (String.join (pieces.map src.text))
  | unmarked {n : Node} {letters quote body : List Char} (hkind : n.kind = "string")
      (hmark : n.hasChild "string_start" = false) (hletters : IsOpening letters quote)
      (hbody : quote.length = 1 → body.head? ≠ quote.head?)
      (htext : src.text n = String.ofList (letters ++ (quote ++ body ++ quote))) :
      RendersText src n (String.ofList body)
  | adjacent {n : Node} {parts : List String} (hkind : n.kind = "concatenated_string")
      (h : List.Forall₂ (RendersText src) n.contents parts) : RendersText src n (String.join parts)
  | inParens {n e : Node} {s : String} (hkind : n.kind = "parenthesized_expression")
      (he : n.contents = [e]) (h : RendersText src e s) : RendersText src n s

/-- The kinds of the displays that are read as lists. -/
def displayKinds : List String := ["list", "tuple", "set"]

/-- The expression writes the value. Only the content of a display or of parentheses counts, so that
there may be comments and punctuation anywhere. -/
inductive Renders (src : Source) : Node → Literal → Prop where
  | null {n : Node} (hkind : n.kind = "none") : Renders src n .null
  | yes {n : Node} (hkind : n.kind = "true") : Renders src n (.bool true)
  | no {n : Node} (hkind : n.kind = "false") : Renders src n (.bool false)
  | number {n : Node} {k : Nat} (hkind : n.kind = "integer")
      (h : Number.Written (src.text n).toList k) : Renders src n (.int k)
  | text {n : Node} {s : String} (hkind : n.isStringLiteral = true) (h : RendersText src n s) :
      Renders src n (.text s)
  | list {n : Node} {items : List Literal} (hkind : n.kind ∈ displayKinds)
      (h : List.Forall₂ (Renders src) n.contents items) : Renders src n (.list items)
  | inParens {n e : Node} {v : Literal} (hkind : n.kind = "parenthesized_expression")
      (he : n.contents = [e]) (h : Renders src e v) : Renders src n v

/-- The values that can be written: all but fractions and negative numbers. -/
inductive Literal.IsPlain : Literal → Prop where
  | null : IsPlain .null
  | bool (b : Bool) : IsPlain (.bool b)
  | number (k : Nat) : IsPlain (.int k)
  | text (s : String) : IsPlain (.text s)
  | list {items : List Literal} (h : ∀ v ∈ items, v.IsPlain) : IsPlain (.list items)

/-! ## Readers of several values -/

section Read

variable {src : Source} {n : Node}

theorem literals?_eq_some_iff {ns : List Node} {vs : List Literal} :
    literals? src ns = some vs ↔ (ns.filter Node.isContent).map (literal? src) = vs.map some := by
  induction ns generalizing vs with
  | nil => cases vs <;> simp [literals?]
  | cons n ns ih =>
      rw [literals?]
      by_cases hn : n.isContent = true
      · rw [if_pos hn, List.filter_cons_of_pos hn, List.map_cons]
        cases vs with
        | nil => cases literal? src n <;> cases literals? src ns <;> simp
        | cons v vs =>
            rw [List.map_cons, List.cons.injEq, ← ih]
            cases literal? src n <;> cases literals? src ns <;> simp
      · rw [if_neg hn, List.filter_cons_of_neg hn, ih]

theorem innerLiteral?_eq (ns : List Node) :
    innerLiteral? src ns = (ns.filter Node.isContent).head?.bind (literal? src) := by
  induction ns with
  | nil => rfl
  | cons n ns ih =>
      by_cases hn : n.isContent = true
      · simp [innerLiteral?, hn]
      · simp [innerLiteral?, hn, ih]

theorem literal?_atom {v : Literal}
    (h : (n.kind, v) ∈ [("none", .null), ("true", .bool true), ("false", .bool false)]) :
    literal? src n = some v := by
  obtain ⟨l, cs⟩ := n
  change (l.kind, v) ∈ _ at h
  simp only [List.mem_cons, List.not_mem_nil, or_false, Prod.mk.injEq] at h
  rcases h with ⟨h, rfl⟩ | ⟨h, rfl⟩ | ⟨h, rfl⟩ <;> rw [literal?, h] <;> rfl

theorem literal?_string (h : n.isStringLiteral = true) :
    literal? src n = (stringText? src n).map fun t => .text t.content := by
  obtain ⟨l, cs⟩ := n
  replace h : (l.kind == "string" || l.kind == "concatenated_string") = true := h
  rw [literal?, h]
  rfl

theorem literal?_integer (h : n.kind = "integer") :
    literal? src n = (Number.readInteger? (withoutUnderscores (src.text n))).map .int := by
  obtain ⟨l, cs⟩ := n
  replace h : l.kind = "integer" := h
  rw [literal?, h]
  rfl

theorem literal?_display (h : n.kind ∈ displayKinds) :
    literal? src n = (literals? src n.children).map .list := by
  obtain ⟨l, cs⟩ := n
  replace h : l.kind ∈ displayKinds := h
  simp only [displayKinds, List.mem_cons, List.not_mem_nil, or_false] at h
  rcases h with h | h | h <;> rw [literal?, h] <;> rfl

/-- A display is read if each of its elements is, as the list of what these are read as. -/
theorem literal?_display_eq_some_iff (h : n.kind ∈ displayKinds) {v : Literal} :
    literal? src n = some v ↔
      ∃ items, v = .list items ∧ n.contents.map (literal? src) = items.map some := by
  rw [literal?_display h, Option.map_eq_some_iff]
  constructor
  · rintro ⟨items, hitems, rfl⟩
    exact ⟨items, rfl, literals?_eq_some_iff.mp hitems⟩
  · rintro ⟨items, rfl, hitems⟩
    exact ⟨items, literals?_eq_some_iff.mpr hitems, rfl⟩

theorem literal?_parens (h : n.kind = "parenthesized_expression") :
    literal? src n = if n.contents.length = 1 then n.contents.head?.bind (literal? src) else none := by
  obtain ⟨l, cs⟩ := n
  replace h : l.kind = "parenthesized_expression" := h
  rw [literal?, h, innerLiteral?_eq]
  rfl

theorem literal?_inParens {e : Node} (h : n.kind = "parenthesized_expression")
    (he : n.contents = [e]) : literal? src n = literal? src e := by
  rw [literal?_parens h, he]
  rfl

/-- Only a display is read as a list, or what stands in parentheses. -/
theorem kind_of_literal?_list {items : List Literal} (h : literal? src n = some (.list items)) :
    n.kind ∈ displayKinds ∨ n.kind = "parenthesized_expression" := by
  obtain ⟨l, cs⟩ := n
  by_contra hkind
  replace hkind : ¬ (l.kind ∈ displayKinds ∨ l.kind = "parenthesized_expression") := hkind
  simp only [displayKinds, List.mem_cons, List.not_mem_nil, or_false, not_or] at hkind
  simp only [literal?, hkind, beq_false_of_ne, ne_eq, not_false_eq_true, Bool.or_self, Bool.false_eq_true,
    if_false] at h
  repeat' split at h
  all_goals simp at h

end Read

/-! ## What is written is read -/

section RoundTrip

variable {src : Source} {n : Node}

theorem filter_pieces {opening closing : Node} {pieces : List Node}
    (hopening : opening.kind = "string_start") (hclosing : closing.kind = "string_end")
    (hpieces : ∀ p ∈ pieces, p.kind ≠ "string_start" ∧ p.kind ≠ "string_end") :
    (opening :: (pieces ++ [closing])).filter
      (fun c => c.kind != "string_start" && c.kind != "string_end") = pieces := by
  have hkept : pieces.filter (fun c => c.kind != "string_start" && c.kind != "string_end") = pieces :=
    List.filter_eq_self.mpr fun p hp => by simp [hpieces p hp]
  simp [List.filter_append, hopening, hclosing, hkept]

theorem IsOpening.mem {letters quote : List Char} (h : IsOpening letters quote) :
    (∀ c ∈ letters, c ∈ stringLetters) ∧ quote ∈ stringQuotes :=
  h

theorem RendersText.stringText? {s : String} (h : RendersText src n s) :
    ∃ t, stringText? src n = some t ∧ t.content = s := by
  -- The letters and quotes of a literal in pieces do not matter; without pieces they are cut off.
  refine @RendersText.rec src (fun n s _ => ∃ t, SourceFacts.stringText? src n = some t ∧ t.content = s)
    (fun ns parts _ => ∃ ts : List StringText,
      ns.map (SourceFacts.stringText? src) = ts.map some ∧ ts.map (·.content) = parts)
    ?_ ?_ ?_ ?_ ⟨[], rfl, rfl⟩ ?_ n s h
  · intro n opening closing pieces letters quote hkind hchildren hopening hclosing hpieces _ _ _
    have hmark : n.hasChild "string_start" = true := by simp [Node.hasChild, hchildren, hopening]
    refine ⟨_, stringText?_string hkind, ?_⟩
    rw [(stringParts_marked src hmark).1, hchildren, filter_pieces hopening hclosing hpieces]
  · intro n letters quote body hkind hmark hletters hbody htext
    refine ⟨_, stringText?_string hkind, ?_⟩
    rw [stringParts_unmarked src hmark, htext,
      StringParts.ofText_quoted hletters.mem.1 hletters.mem.2 hbody]
  · rintro n parts hkind - ⟨ts, hts, rfl⟩
    exact ⟨StringText.joined ts, by rw [stringText?_adjacent hkind, hts, StringText.all?_map_some], rfl⟩
  · rintro n e s hkind he - ⟨t, ht, rfl⟩
    exact ⟨t, by rw [stringText?_inParens hkind he, ht], rfl⟩
  · rintro n s ns parts - - ⟨t, ht, rfl⟩ ⟨ts, hts, rfl⟩
    exact ⟨t :: ts, by rw [List.map_cons, List.map_cons, ht, hts], rfl⟩

theorem Renders.literal? {v : Literal} (h : Renders src n v) : literal? src n = some v := by
  -- By induction on how the value is written, together with the elements of displays.
  refine @Renders.rec src (fun n v _ => SourceFacts.literal? src n = some v)
    (fun ns vs _ => ns.map (SourceFacts.literal? src) = vs.map some) ?_ ?_ ?_ ?_ ?_ ?_ ?_ rfl ?_ n v h
  · intro n hkind
    exact literal?_atom (by simp [hkind])
  · intro n hkind
    exact literal?_atom (by simp [hkind])
  · intro n hkind
    exact literal?_atom (by simp [hkind])
  · intro n k hkind h
    rw [literal?_integer hkind, h.readInteger?]
    rfl
  · intro n s hkind h
    obtain ⟨t, ht, rfl⟩ := h.stringText?
    rw [literal?_string hkind, ht]
    rfl
  · intro n items hkind _ ih
    exact (literal?_display_eq_some_iff hkind).mpr ⟨items, rfl, ih⟩
  · intro n e v hkind he _ ih
    rw [literal?_inParens hkind he, ih]
  · intro n v ns vs _ _ ih ihs
    rw [List.map_cons, List.map_cons, ih, ihs]

end RoundTrip

/-! ## Arguments -/

section Argument

variable {src : Source} {n : Node} {v : Literal}

theorem literal?_argument (h : n.kind ∈ ["keyword_argument", "list_splat", "dictionary_splat"]) :
    literal? src n = none := by
  obtain ⟨l, cs⟩ := n
  replace h : l.kind ∈ ["keyword_argument", "list_splat", "dictionary_splat"] := h
  simp only [List.mem_cons, List.not_mem_nil, or_false] at h
  rcases h with h | h | h <;> rw [literal?, h] <;> rfl

theorem argument_of_literal? (h : literal? src n = some v) :
    n.argument src = { text := src.text n, value := some v } := by
  have hkind : n.kind ∉ ["keyword_argument", "list_splat", "dictionary_splat"] := fun hmem => by
    rw [literal?_argument hmem] at h
    exact absurd h (by simp)
  simp only [List.mem_cons, List.not_mem_nil, or_false, not_or] at hkind
  simp [Node.argument, Node.isSplat, hkind, h]

theorem argument_of_keyword {k : Node} (hkind : k.kind = "keyword_argument")
    (hvalue : k.child? "value" = some n) (h : literal? src n = some v) :
    k.argument src =
      { text := src.text n
        keyword := nonEmpty? (src.textOf (k.child? "name"))
        value := some v } := by
  simp [Node.argument, hkind, hvalue, Source.textOf, h]

end Argument

/-! ## Elements that cannot be read -/

/-- The node is a display or in parentheses, and the other one is part of its content. -/
def Node.HasElement (n e : Node) : Prop :=
  n.kind ∈ "parenthesized_expression" :: displayKinds ∧ e ∈ n.contents

/-- The node is the other one in parentheses. -/
def Node.Wraps (n e : Node) : Prop :=
  n.kind = "parenthesized_expression" ∧ n.contents = [e]

section Unread

variable {src : Source} {n e : Node}

theorem literal?_of_hasElement (h : n.HasElement e) (he : literal? src e = none) :
    literal? src n = none := by
  obtain ⟨hkind, hmem⟩ := h
  rcases List.mem_cons.mp hkind with hparens | hdisplay
  · rw [literal?_parens hparens]
    split
    · rename_i hlength
      obtain ⟨d, hd⟩ := List.length_eq_one_iff.mp hlength
      rw [hd, List.mem_singleton] at hmem
      rw [hd, ← hmem]
      exact he
    · rfl
  · rw [Option.eq_none_iff_forall_ne_some]
    intro v hv
    obtain ⟨items, -, hitems⟩ := (literal?_display_eq_some_iff hdisplay).mp hv
    have hnone : none ∈ items.map some := by
      rw [← hitems, ← he]
      exact List.mem_map_of_mem hmem
    simp at hnone

theorem literal?_of_within (h : Relation.ReflTransGen Node.HasElement n e)
    (he : literal? src e = none) : literal? src n = none := by
  induction h using Relation.ReflTransGen.head_induction_on with
  | refl => exact he
  | head h _ ih => exact literal?_of_hasElement h ih

theorem literal?_list_iff {items : List Literal} :
    literal? src n = some (.list items) ↔
      ∃ d, Relation.ReflTransGen Node.Wraps n d ∧ d.kind ∈ displayKinds ∧
        d.contents.map (literal? src) = items.map some := by
  constructor
  · induction n using Node.inductionOnChildren with
    | step n ih =>
    intro h
    rcases kind_of_literal?_list h with hdisplay | hparens
    · obtain ⟨items', heq, hitems⟩ := (literal?_display_eq_some_iff hdisplay).mp h
      cases heq
      exact ⟨n, .refl, hdisplay, hitems⟩
    · rw [literal?_parens hparens] at h
      split at h
      · rename_i hlength
        obtain ⟨e, he⟩ := List.length_eq_one_iff.mp hlength
        rw [he] at h
        have hchild : e ∈ n.children :=
          (List.mem_filter.mp (he ▸ List.mem_singleton_self e : e ∈ n.contents)).1
        obtain ⟨d, hd, hkind, hitems⟩ := ih e hchild h
        exact ⟨d, .head ⟨hparens, he⟩ hd, hkind, hitems⟩
      · exact absurd h (by simp)
  · rintro ⟨d, hd, hkind, hitems⟩
    have hread : literal? src d = some (.list items) :=
      (literal?_display_eq_some_iff hkind).mpr ⟨items, rfl, hitems⟩
    induction hd using Relation.ReflTransGen.head_induction_on with
    | refl => exact hread
    | head h _ ih => rw [literal?_inParens h.1 h.2, ih]

end Unread

/-! ## Every value can be written -/

section Write

/-- A named node without children over a span of bytes. -/
def leaf (kind : String) (start length : Nat) : Node :=
  .node { kind, start, stop := start + length } []

theorem text_leaf (kind s : String) (before after : List UInt8) :
    (Source.mk (before ++ (Text.Utf8.encode s ++ after))).text
      (leaf kind before.length (Text.Utf8.encode s).length) = s := by
  have hslice : (Source.mk (before ++ (Text.Utf8.encode s ++ after))).slice before.length
      (before.length + (Text.Utf8.encode s).length) = Text.Utf8.encode s := by
    rw [Source.slice, List.take_length_add_append, List.drop_left, List.take_left]
  exact (congrArg Text.Utf8.decode hslice).trans (Text.Utf8.decode_encode s)

/-- The value can be written with the bytes, wherever these stand. -/
def Carries (bytes : List UInt8) (v : Literal) : Prop :=
  ∀ before after, ∃ n : Node, n.isContent = true ∧ Renders ⟨before ++ (bytes ++ after)⟩ n v

theorem carries_number {s : String} {k : Nat} (h : Number.Written s.toList k) :
    Carries (Text.Utf8.encode s) (.int k) := fun before after =>
  ⟨leaf "integer" before.length (Text.Utf8.encode s).length, rfl,
    .number rfl ((text_leaf "integer" s before after).symm ▸ h)⟩

theorem carries_text (s : String) :
    Carries (Text.Utf8.encode "\"" ++ (Text.Utf8.encode s ++ Text.Utf8.encode "\"")) (.text s) := by
  intro before after
  generalize hquote : Text.Utf8.encode "\"" = quote
  generalize hbytes : Text.Utf8.encode s = bytes
  let src : Source := ⟨before ++ (quote ++ (bytes ++ (quote ++ after)))⟩
  let opening := leaf "string_start" before.length quote.length
  let piece := leaf "string_content" (before ++ quote).length bytes.length
  let closing := leaf "string_end" (before ++ (quote ++ bytes)).length quote.length
  have hstart : src.text opening = "\"" := by
    have h := text_leaf "string_start" "\"" before (bytes ++ (quote ++ after))
    rwa [hquote] at h
  have hpiece : src.text piece = s := by
    have h := text_leaf "string_content" s (before ++ quote) (quote ++ after)
    rwa [hbytes, List.append_assoc] at h
  have hstop : src.text closing = "\"" := by
    have h := text_leaf "string_end" "\"" (before ++ (quote ++ bytes)) after
    rwa [hquote, List.append_assoc, List.append_assoc] at h
  have hjoin : String.join ([piece].map src.text) = s := by
    rw [List.map_singleton, hpiece]
    simp
  have hletters : IsOpening [] ['"'] := ⟨by simp, by decide⟩
  refine ⟨.node { kind := "string", start := 0, stop := 0 } [opening, piece, closing], rfl, ?_⟩
  rw [List.append_assoc, List.append_assoc, ← hjoin]
  refine .text rfl (.marked rfl rfl rfl rfl ?_ hletters hstart hstop)
  intro p hp
  rw [List.mem_singleton.mp hp]
  change "string_content" ≠ "string_start" ∧ "string_content" ≠ "string_end"
  decide

theorem exists_carries_all {items : List Literal} (h : ∀ v ∈ items, ∃ bytes, Carries bytes v) :
    ∃ bytes, ∀ before after, ∃ ns : List Node, (∀ n ∈ ns, n.isContent = true) ∧
      List.Forall₂ (Renders ⟨before ++ (bytes ++ after)⟩) ns items := by
  induction items with
  | nil => exact ⟨[], fun _ _ => ⟨[], by simp, .nil⟩⟩
  | cons v items ih =>
      obtain ⟨hv, hitems⟩ := List.forall_mem_cons.mp h
      obtain ⟨first, hfirst⟩ := hv
      obtain ⟨rest, hrest⟩ := ih hitems
      refine ⟨first ++ rest, fun before after => ?_⟩
      obtain ⟨n, hn, hrenders⟩ := hfirst before (rest ++ after)
      obtain ⟨ns, hns, hrenders'⟩ := hrest (before ++ first) after
      rw [List.append_assoc] at hrenders'
      rw [List.append_assoc]
      exact ⟨n :: ns, List.forall_mem_cons.mpr ⟨hn, hns⟩, .cons hrenders hrenders'⟩

theorem exists_carries {v : Literal} (h : v.IsPlain) : ∃ bytes, Carries bytes v := by
  induction h with
  | null => exact ⟨[], fun _ _ => ⟨leaf "none" 0 0, rfl, .null rfl⟩⟩
  | bool b =>
      cases b with
      | true => exact ⟨[], fun _ _ => ⟨leaf "true" 0 0, rfl, .yes rfl⟩⟩
      | false => exact ⟨[], fun _ _ => ⟨leaf "false" 0 0, rfl, .no rfl⟩⟩
  | number k =>
      obtain ⟨s, hs⟩ := Number.exists_written k
      exact ⟨_, carries_number hs⟩
  | text s => exact ⟨_, carries_text s⟩
  | list _ ih =>
      obtain ⟨bytes, hbytes⟩ := exists_carries_all ih
      refine ⟨bytes, fun before after => ?_⟩
      obtain ⟨ns, hns, hrenders⟩ := hbytes before after
      have hcontents : ns.filter Node.isContent = ns := List.filter_eq_self.mpr hns
      exact ⟨.node { kind := "list", start := 0, stop := 0 } ns, rfl,
        .list List.mem_cons_self (by rwa [Node.contents, Node.children, hcontents])⟩

theorem Renders.isPlain {src : Source} {n : Node} {v : Literal} (h : Renders src n v) : v.IsPlain := by
  exact @Renders.rec src (fun _ v _ => v.IsPlain) (fun _ vs _ => ∀ v ∈ vs, v.IsPlain)
    (fun _ => .null) (fun _ => .bool true) (fun _ => .bool false) (fun _ _ => .number _)
    (fun _ _ => .text _) (fun _ _ ih => .list ih) (fun _ _ _ ih => ih)
    (fun v hv => absurd hv List.not_mem_nil) (fun _ _ ih ihs => List.forall_mem_cons.mpr ⟨ih, ihs⟩) n v h

end Write

/-- Whatever way a value is written, it is read back, by itself and as an argument with or without a
keyword, and there is a way to write each value without fractions and negative numbers. What encloses
something that cannot be read, at any depth, cannot be read: what is read as a list is a display, in any
number of parentheses, and each of its elements is read as the item at its place. -/
theorem written_value_read_back :
    (∀ (src : Source) (n : Node) (v : Literal), Renders src n v →
      literal? src n = some v ∧
      n.argument src = { text := src.text n, value := some v } ∧
      ∀ k : Node, k.kind = "keyword_argument" → k.child? "value" = some n →
        k.argument src =
          { text := src.text n
            keyword := nonEmpty? (src.textOf (k.child? "name"))
            value := some v }) ∧
    (∀ v : Literal, (∃ src n, Renders src n v) ↔ v.IsPlain) ∧
    (∀ (src : Source) (n e : Node), Relation.ReflTransGen Node.HasElement n e →
      literal? src e = none → literal? src n = none) ∧
    ∀ (src : Source) (n : Node) (items : List Literal),
      literal? src n = some (.list items) ↔
        ∃ d, Relation.ReflTransGen Node.Wraps n d ∧ d.kind ∈ displayKinds ∧
          d.contents.map (literal? src) = items.map some := by
  refine ⟨fun src n v h => ⟨h.literal?, argument_of_literal? h.literal?, ?_⟩, fun v => ⟨?_, ?_⟩,
    fun src n e => literal?_of_within, fun src n items => literal?_list_iff⟩
  · exact fun k hkind hvalue => argument_of_keyword hkind hvalue h.literal?
  · rintro ⟨src, n, h⟩
    exact h.isPlain
  · intro h
    obtain ⟨bytes, hbytes⟩ := exists_carries h
    obtain ⟨n, -, hn⟩ := hbytes [] []
    exact ⟨_, n, hn⟩

/-- A tuple that is given to a keyword: a set with a number in base sixteen and nothing in parentheses, a
comment, and a list with two adjacent strings, the first of them in pieces. -/
def nestedSource : Source :=
  plainSource "x=(\x7b0x_F, (None)\x7d, # c\n[r'a' \"b\"],)"

def nestedStrings : Node :=
  .node { kind := "concatenated_string", start := 24, stop := 32 }
    [.node { kind := "string", start := 24, stop := 28 }
        [leaf "string_start" 24 2, leaf "string_content" 26 1, leaf "string_end" 27 1],
      leaf "string" 29 3]

def nestedTuple : Node :=
  .node { kind := "tuple", start := 2, stop := 35, field := some "value" }
    [token "(" 2 3,
      .node { kind := "set", start := 3, stop := 17 }
        [token "\x7b" 3 4, leaf "integer" 4 4, token "," 8 9,
          .node { kind := "parenthesized_expression", start := 10, stop := 16 }
            [token "(" 10 11, leaf "none" 11 4, token ")" 15 16],
          token "\x7d" 16 17],
      token "," 17 18, leaf "comment" 19 3,
      .node { kind := "list", start := 23, stop := 33 } [token "[" 23 24, nestedStrings, token "]" 32 33],
      token "," 33 34, token ")" 34 35]

theorem rendersText_nestedStrings : RendersText nestedSource nestedStrings "ab" := by
  have hpieces : ∀ p ∈ [leaf "string_content" 26 1], p.kind ≠ "string_start" ∧ p.kind ≠ "string_end" := by
    decide
  have hraw : IsOpening ['r'] ['\''] := ⟨by simp, by decide⟩
  have hplain : IsOpening [] ['"'] := ⟨by simp, by decide⟩
  have hparts : List.Forall₂ (RendersText nestedSource) nestedStrings.contents
      [String.join ([leaf "string_content" 26 1].map nestedSource.text), String.ofList ['b']] :=
    .cons (.marked rfl rfl rfl rfl hpieces hraw (by decide) (by decide))
      (.cons (.unmarked rfl rfl hplain (by decide) (by decide)) .nil)
  exact .adjacent rfl hparts

theorem renders_nestedTuple :
    Renders nestedSource nestedTuple (.list [.list [.int 15, .null], .list [.text "ab"]]) := by
  have htext : (nestedSource.text (leaf "integer" 4 4)).toList = ['0', 'x', '_', 'F'] := by decide
  have hdigit : Number.IsDigit 'F' 15 := by simp [Number.IsDigit, Nat.digitChar]
  have hnumber : Number.Written ['0', 'x', '_', 'F'] 15 :=
    .radix (List.mem_cons_self ..) ⟨[15], by decide, .cons hdigit .nil, by decide⟩ (by decide)
  have hset : Renders nestedSource (nestedTuple.contents.get ⟨0, by decide⟩) (.list [.int 15, .null]) :=
    .list (by decide) (.cons (.number rfl (htext ▸ hnumber)) (.cons (.inParens rfl rfl (.null rfl)) .nil))
  have hlist : Renders nestedSource (nestedTuple.contents.get ⟨1, by decide⟩) (.list [.text "ab"]) :=
    .list (by decide) (.cons (.text rfl rendersText_nestedStrings) .nil)
  exact .list (by decide) (.cons hset (.cons hlist .nil))

theorem written_value_read_back_nested :
    let v : Literal := .list [.list [.int 15, .null], .list [.text "ab"]]
    let argument := Node.node { kind := "keyword_argument", start := 0, stop := 35 }
      [.node { kind := "identifier", start := 0, stop := 1, field := some "name" } [], token "=" 1 2,
        nestedTuple]
    let name := leaf "identifier" 0 1
    let inner := Node.node { kind := "parenthesized_expression", start := 0, stop := 1 } [name]
    let outer := Node.node { kind := "list", start := 0, stop := 1 } [leaf "none" 11 4, inner]
    Renders nestedSource nestedTuple v ∧ literal? nestedSource nestedTuple = some v ∧
      argument.argument nestedSource =
        { text := nestedSource.text nestedTuple, keyword := some "x", value := some v } ∧
      Relation.ReflTransGen Node.HasElement outer name ∧ literal? nestedSource name = none ∧
      literal? nestedSource outer = none := by
  intro v argument name inner outer
  obtain ⟨hread, -, hkeyword⟩ := written_value_read_back.1 nestedSource nestedTuple v renders_nestedTuple
  have hname : nonEmpty? (nestedSource.textOf (argument.child? "name")) = some "x" := by decide
  have hwithin : Relation.ReflTransGen Node.HasElement outer name :=
    .head ⟨by decide, List.mem_cons_of_mem _ List.mem_cons_self⟩
      (.single (⟨by decide, List.mem_cons_self⟩ : Node.HasElement inner name))
  have hnone : literal? nestedSource name = none := rfl
  refine ⟨renders_nestedTuple, hread, ?_, hwithin, hnone,
    written_value_read_back.2.2.1 nestedSource outer name hwithin hnone⟩
  rw [hkeyword argument rfl rfl, hname]

end SourceFacts
