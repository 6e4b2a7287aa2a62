import Mathlib.Data.List.TakeWhile
import SourceFacts.Proofs.Syntax.Literal

/-!
# String literals with and without marks

A string literal is read in two ways. Where its marks are nodes of their own, the first one gives the
letters, and what stands between the marks is put together. Where there are no such nodes, the letters and
the quotes are cut off the text. Both give the same letters and the same content, in whatever pieces the
content comes.
-/

namespace SourceFacts

/-- A string literal: letters, a quote, and a body between two of these quotes. -/
structure QuotedText where
  letters : String
  quote : String
  body : String
  opening : IsOpening letters.toList quote.toList
  /-- A body in single quotes does not begin with the quote. -/
  closed : quote.length = 1 → body.toList.head? ≠ quote.toList.head?

namespace QuotedText

/-- How the literal is written. -/
def text (q : QuotedText) : String :=
  q.letters ++ q.quote ++ q.body ++ q.quote

/-- The node has the text of the literal, and no opening mark. -/
structure InText (q : QuotedText) (src : Source) (n : Node) : Prop where
  unmarked : n.hasChild "string_start" = false
  text_eq : src.text n = q.text

/-- The children of the node are the marks of the literal, and between them pieces of its body. -/
structure InPieces (q : QuotedText) (src : Source) (n opening : Node) (pieces : List Node)
    (closing : Node) : Prop where
  children_eq : n.children = opening :: (pieces ++ [closing])
  opening_kind : opening.kind = "string_start"
  opening_text : src.text opening = q.letters ++ q.quote
  piece_kind : ∀ p ∈ pieces, p.kind ≠ "string_start" ∧ p.kind ≠ "string_end"
  piece_texts : String.join (pieces.map src.text) = q.body
  closing_kind : closing.kind = "string_end"
  closing_text : src.text closing = q.quote

variable {q : QuotedText} {src : Source} {n opening closing : Node} {pieces : List Node}

theorem InText.stringParts (h : q.InText src n) :
    (n.stringParts src).letters = q.letters ∧ (n.stringParts src).content = q.body := by
  have htext : src.text n = String.ofList
      (q.letters.toList ++ (q.quote.toList ++ q.body.toList ++ q.quote.toList)) := by
    rw [h.text_eq]
    exact String.toList_injective (by simp [text])
  have hclosed : q.quote.toList.length = 1 → q.body.toList.head? ≠ q.quote.toList.head? := q.closed
  rw [stringParts_unmarked src h.unmarked, htext,
    StringParts.ofText_quoted q.opening.mem.1 q.opening.mem.2 hclosed]
  exact ⟨String.ofList_toList, String.ofList_toList⟩

/-- Cutting the quotes off an opening mark leaves its letters. -/
theorem dropWhile_opening {letters quote : List Char} (h : IsOpening letters quote) :
    ((letters ++ quote).reverse.dropWhile fun c => c == '"' || c == '\'').reverse = letters := by
  obtain ⟨hmem, hquotes⟩ := h.mem
  have hquote : ∀ c ∈ quote.reverse, (c == '"' || c == '\'') = true := by
    simp only [stringQuotes, List.mem_cons, List.not_mem_nil, or_false] at hquotes
    rcases hquotes with rfl | rfl | rfl | rfl <;> simp
  have hletter : ∀ c ∈ letters, ¬ (c == '"' || c == '\'') = true := by
    intro c hc
    have hc := hmem c hc
    simp only [stringLetters, List.mem_cons, List.not_mem_nil, or_false] at hc
    rcases hc with rfl | rfl | rfl | rfl | rfl | rfl | rfl | rfl <;> simp
  have hstop : letters.reverse.dropWhile (fun c => c == '"' || c == '\'') = letters.reverse :=
    List.dropWhile_eq_self_iff.mpr fun _ => hletter _ (List.mem_reverse.mp (List.getElem_mem _))
  rw [List.reverse_append, List.dropWhile_append_of_pos hquote, hstop, List.reverse_reverse]

theorem InPieces.stringParts (h : q.InPieces src n opening pieces closing) :
    (n.stringParts src).letters = q.letters ∧ (n.stringParts src).content = q.body := by
  have hmark : n.hasChild "string_start" = true := by
    simp [Node.hasChild, h.children_eq, h.opening_kind]
  have hopening : n.children.filter (fun c => c.kind == "string_start") = [opening] := by
    have hpieces : pieces.filter (fun c => c.kind == "string_start") = [] :=
      List.filter_eq_nil_iff.mpr fun p hp => by simp [h.piece_kind p hp]
    simp [h.children_eq, List.filter_append, h.opening_kind, h.closing_kind, hpieces]
  constructor
  · have hletters := dropWhile_opening q.opening
    rw [← String.toList_append, ← h.opening_text] at hletters
    rw [Node.stringParts, StringParts.ofChildren?, hopening]
    exact (congrArg String.ofList hletters).trans String.ofList_toList
  · rw [(stringParts_marked src hmark).1, h.children_eq,
      filter_pieces h.opening_kind h.closing_kind h.piece_kind, h.piece_texts]

/-! ## Nodes for every split -/

/-- Nodes of given kinds over texts that are written one after the other from an offset on. -/
def leaves : Nat → List (String × String) → List Node
  | _, [] => []
  | offset, (kind, s) :: rest =>
    leaf kind offset (Text.Utf8.encode s).length ::
      leaves (offset + (Text.Utf8.encode s).length) rest

theorem kind_text_leaves (parts : List (String × String)) (before after : List UInt8) :
    (leaves before.length parts).map (fun n =>
      (n.kind, (Source.mk (before ++ (Text.Utf8.encode (String.join (parts.map (·.2))) ++ after))).text n)) =
        parts := by
  induction parts generalizing before with
  | nil => rfl
  | cons part parts ih =>
      obtain ⟨kind, s⟩ := part
      have hrest := ih (before ++ Text.Utf8.encode s)
      rw [List.length_append] at hrest
      simp only [List.map_cons, String.join_cons, Text.Utf8.encode_append, List.append_assoc] at hrest ⊢
      rw [leaves, List.map_cons, hrest, text_leaf]
      rfl

/-- Every split of the body, at any place of a source, has its node, over the same span as the node
without marks. -/
theorem exists_inText_inPieces (q : QuotedText) {split : List (String × String)}
    (hkinds : ∀ part ∈ split, part.1 ≠ "string_start" ∧ part.1 ≠ "string_end")
    (hbody : String.join (split.map (·.2)) = q.body) {src : Source} {before after : List UInt8}
    (hsrc : src.bytes = before ++ (Text.Utf8.encode q.text ++ after)) :
    ∃ n m opening pieces closing, q.InText src n ∧ q.InPieces src m opening pieces closing ∧
      n.kind = "string" ∧ m.label = n.label ∧ pieces.map (fun p => (p.kind, src.text p)) = split := by
  obtain rfl : src = ⟨before ++ (Text.Utf8.encode q.text ++ after)⟩ := congrArg Source.mk hsrc
  let parts := ("string_start", q.letters ++ q.quote) :: (split ++ [("string_end", q.quote)])
  have hjoin : String.join (parts.map (·.2)) = q.text := by
    simp [parts, String.join_cons, hbody, text, String.append_assoc]
  have hleaves := kind_text_leaves parts before after
  rw [hjoin] at hleaves
  -- The leaves come apart as the parts do: the opening mark, the pieces, the closing mark.
  obtain ⟨opening, rest, hchildren, hopening, hrest⟩ := List.map_eq_cons_iff.mp hleaves
  obtain ⟨pieces, last, rfl, hpieces, hlast⟩ := List.map_eq_append_iff.mp hrest
  obtain ⟨closing, rfl, hclosing⟩ := List.map_eq_singleton_iff.mp hlast
  obtain ⟨hopeningKind, hopeningText⟩ := Prod.mk.inj hopening
  obtain ⟨hclosingKind, hclosingText⟩ := Prod.mk.inj hclosing
  let n := leaf "string" before.length (Text.Utf8.encode q.text).length
  refine ⟨n, .node n.label (leaves before.length parts), opening, pieces, closing,
    ⟨rfl, text_leaf "string" q.text before after⟩, ?_, rfl, rfl, hpieces⟩
  exact
    { children_eq := hchildren
      opening_kind := hopeningKind
      opening_text := hopeningText
      piece_kind := fun p hp => hkinds _ (hpieces ▸ List.mem_map_of_mem hp)
      piece_texts := by
        rw [← hbody, ← hpieces, List.map_map]
        rfl
      closing_kind := hclosingKind
      closing_text := hclosingText }

end QuotedText

/-- Whatever the letters, the quote and the body of a string literal are, the node that has it in its text
alone and the node that has it in pieces are read with the same letters and the same content, which are
those of the literal; and wherever the literal is written in a source, there are such nodes over its span,
the second one for each split of the body. -/
theorem string_readings_agree (q : QuotedText) :
    (∀ (src src' : Source) (n m opening closing : Node) (pieces : List Node),
      q.InText src n → q.InPieces src' m opening pieces closing →
      (n.stringParts src).letters = q.letters ∧ (m.stringParts src').letters = q.letters ∧
        (n.stringParts src).content = q.body ∧ (m.stringParts src').content = q.body) ∧
    ∀ (split : List (String × String)) (src : Source) (before after : List UInt8),
      (∀ part ∈ split, part.1 ≠ "string_start" ∧ part.1 ≠ "string_end") →
      String.join (split.map (·.2)) = q.body →
      src.bytes = before ++ (Text.Utf8.encode q.text ++ after) →
      ∃ n m opening pieces closing, q.InText src n ∧ q.InPieces src m opening pieces closing ∧
        n.kind = "string" ∧ m.label = n.label ∧
        pieces.map (fun p => (p.kind, src.text p)) = split := by
  constructor
  · intro src src' n m opening closing pieces hn hm
    obtain ⟨hletters, hcontent⟩ := hn.stringParts
    obtain ⟨hletters', hcontent'⟩ := hm.stringParts
    exact ⟨hletters, hletters', hcontent, hcontent'⟩
  · intro split src before after hkinds hbody hsrc
    exact q.exists_inText_inPieces hkinds hbody hsrc

/-- A body that begins and ends with its own quote character. -/
def quotedQuotes : QuotedText where
  letters := "rB"
  quote := "'''"
  body := "'a''"
  opening := ⟨by simp, by decide⟩
  closed := by decide

theorem string_readings_agree_quotes :
    let src := plainSource "rB''''a'''''"
    let n := leaf "string" 0 12
    let pieces := [leaf "string_content" 5 1, leaf "interpolation" 6 1, leaf "escape_sequence" 7 2]
    let m := Node.node n.label (leaf "string_start" 0 5 :: (pieces ++ [leaf "string_end" 9 3]))
    quotedQuotes.InText src n ∧
      quotedQuotes.InPieces src m (leaf "string_start" 0 5) pieces (leaf "string_end" 9 3) ∧
      (n.stringParts src).letters = "rB" ∧ (m.stringParts src).letters = "rB" ∧
      (n.stringParts src).content = "'a''" ∧ (m.stringParts src).content = "'a''" := by
  intro src n pieces m
  have hn : quotedQuotes.InText src n := ⟨rfl, by decide⟩
  have hm : quotedQuotes.InPieces src m (leaf "string_start" 0 5) pieces (leaf "string_end" 9 3) :=
    { children_eq := rfl
      opening_kind := rfl
      opening_text := by decide
      piece_kind := by decide
      piece_texts := by decide
      closing_kind := rfl
      closing_text := by decide }
  exact ⟨hn, hm, (string_readings_agree quotedQuotes).1 src src n m _ _ pieces hn hm⟩

end SourceFacts
