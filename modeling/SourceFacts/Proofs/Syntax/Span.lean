import Mathlib.Data.Prod.Lex
import SourceFacts.Proofs.Syntax.Address

/-!
# Spans and places

Where children lie inside their parents and one behind the other, pre-order goes forward through the
source: a node never starts before one that was met earlier. Going forward, lines never decrease, and
columns do not within a line. So pre-order is the order of lines and columns.
-/

namespace SourceFacts

namespace Node

/-- The span of the node is part of the span of another one. -/
def LiesIn (n outer : Node) : Prop :=
  outer.start ≤ n.start ∧ n.start ≤ n.stop ∧ n.stop ≤ outer.stop

instance (n outer : Node) : Decidable (n.LiesIn outer) :=
  inferInstanceAs (Decidable (_ ∧ _ ∧ _))

/-- Every node lies in its parent, and behind its earlier siblings. -/
def WellSpanned (root : Node) : Prop :=
  ∀ n ∈ root.preorder,
    (∀ c ∈ n.children, c.LiesIn n) ∧ n.children.Pairwise fun a b => a.stop ≤ b.start

instance (root : Node) : Decidable root.WellSpanned :=
  inferInstanceAs (Decidable (∀ n ∈ root.preorder, _))

theorem LiesIn.trans {a b c : Node} (hab : a.LiesIn b) (hbc : b.LiesIn c) : a.LiesIn c := by
  obtain ⟨hstart, hspan, hstop⟩ := hab
  obtain ⟨hstart', _, hstop'⟩ := hbc
  exact ⟨Nat.le_trans hstart' hstart, hspan, Nat.le_trans hstop hstop'⟩

theorem mem_preorder_self (n : Node) : n ∈ n.preorder := by
  rw [preorder_eq]
  exact List.mem_cons_self

namespace WellSpanned

variable {n c : Node}

theorem liesIn (h : n.WellSpanned) (hc : c ∈ n.children) : c.LiesIn n :=
  (h n n.mem_preorder_self).1 c hc

theorem child (h : n.WellSpanned) (hc : c ∈ n.children) : c.WellSpanned := by
  intro m hm
  apply h m
  rw [preorder_eq]
  exact List.mem_cons_of_mem _ (List.mem_flatMap.mpr ⟨c, hc, hm⟩)

/-- What is met below a child lies in the child. -/
theorem liesIn_of_mem_preorder (h : n.WellSpanned) (hspan : n.start ≤ n.stop) {m : Node}
    (hm : m ∈ n.preorder) : m.LiesIn n := by
  induction n using inductionOnChildren with
  | step n ih =>
      rw [preorder_eq] at hm
      rcases List.mem_cons.mp hm with rfl | hm
      · exact ⟨Nat.le_refl _, hspan, Nat.le_refl _⟩
      · obtain ⟨c, hc, hm⟩ := List.mem_flatMap.mp hm
        have hcn := h.liesIn hc
        exact (ih c hc (h.child hc) hcn.2.1 hm).trans hcn

/-- Pre-order goes forward through the source. -/
theorem pairwise_start (h : n.WellSpanned) : n.preorder.Pairwise fun a b => a.start ≤ b.start := by
  induction n using inductionOnChildren with
  | step n ih =>
      have hbelow : ∀ c ∈ n.children, ∀ m ∈ c.preorder, m.LiesIn c := fun c hc m hm =>
        (h.child hc).liesIn_of_mem_preorder (h.liesIn hc).2.1 hm
      rw [preorder_eq, List.pairwise_cons, List.pairwise_flatMap]
      refine ⟨?_, fun c hc => ih c hc (h.child hc), ?_⟩
      · intro m hm
        obtain ⟨c, hc, hm⟩ := List.mem_flatMap.mp hm
        exact ((hbelow c hc m hm).trans (h.liesIn hc)).1
      · apply (h n n.mem_preorder_self).2.imp_of_mem
        intro a b ha hb hab x hx y hy
        -- What lies in the earlier sibling ends before the later one starts.
        obtain ⟨_, hspan, hstop⟩ := hbelow a ha x hx
        have hstart := (hbelow b hb y hy).1
        omega

end WellSpanned

theorem walk_sublist (cut : Node → Bool) (n : Node) : (n.walk cut).Sublist n.preorder := by
  rw [walk_eq_filter, ← map_snd_addressed [] n]
  exact List.filter_sublist.map _

end Node

/-! ## Lines and columns -/

namespace Source

variable (src : Source)

/-- The offset at which the line that holds an offset starts. -/
def lineStart (offset : Nat) : Nat :=
  let before := src.bytes.take offset
  before.length - (before.reverse.takeWhile (· != lineFeed)).length

theorem columnAt_eq (offset : Nat) : src.columnAt offset = offset - src.lineStart offset := rfl

theorem exists_take_eq_append {a b : Nat} (h : a ≤ b) :
    ∃ between, src.bytes.take b = src.bytes.take a ++ between := by
  obtain ⟨k, rfl⟩ := Nat.exists_eq_add_of_le h
  exact ⟨_, List.take_add⟩

theorem lineAt_mono {a b : Nat} (h : a ≤ b) : src.lineAt a ≤ src.lineAt b := by
  obtain ⟨between, hb⟩ := src.exists_take_eq_append h
  unfold lineAt
  rw [hb, List.count_append]
  omega

/-- Offsets on one line have the same start of the line: there is no line feed between them. -/
theorem lineStart_eq_of_lineAt_eq {a b : Nat} (h : a ≤ b) (hline : src.lineAt a = src.lineAt b) :
    src.lineStart a = src.lineStart b := by
  obtain ⟨between, hb⟩ := src.exists_take_eq_append h
  unfold lineAt at hline
  rw [hb, List.count_append] at hline
  have hnone : ∀ byte ∈ between.reverse, (byte != lineFeed) = true := by
    have hcount : between.count lineFeed = 0 := by omega
    intro byte hbyte
    rw [bne_iff_ne]
    rintro rfl
    exact List.count_eq_zero.mp hcount (List.mem_reverse.mp hbyte)
  unfold lineStart
  dsimp only
  rw [hb, List.reverse_append, List.takeWhile_append_of_pos hnone]
  simp only [List.length_append, List.length_reverse]
  omega

/-- The line and the column of an offset. -/
def placeAt (offset : Nat) : ℤ ×ₗ ℤ :=
  toLex ((src.lineAt offset : ℤ), (src.columnAt offset : ℤ))

/-- An offset further on is not before in line and column. -/
theorem placeAt_mono {a b : Nat} (h : a ≤ b) : src.placeAt a ≤ src.placeAt b := by
  have hle := src.lineAt_mono h
  rw [placeAt, placeAt, Prod.Lex.toLex_le_toLex]
  rcases Nat.lt_or_eq_of_le hle with hlt | heq
  · exact Or.inl (Int.ofNat_lt.mpr hlt)
  · right
    have hstart := src.lineStart_eq_of_lineAt_eq h heq
    simp only [columnAt_eq, hstart]
    omega

end Source

end SourceFacts
