import Mathlib.Logic.Relation

/-!
# Depth-first order

The order in which a visit of a graph first meets its nodes, going from left to right and into each
node before its right neighbours.
-/

namespace SourceFacts

/-- The nodes that a visit meets, in the order in which it first meets them. It starts from the nodes
that wait, from left to right, passes over what was seen, and goes from a node to what the node leads to
before it goes on. -/
inductive DepthFirst {α : Type} (next : α → List α) : (seen waiting order : List α) → Prop where
  | done (seen : List α) : DepthFirst next seen [] []
  | old {seen waiting order : List α} {a : α} (ha : a ∈ seen)
      (h : DepthFirst next seen waiting order) : DepthFirst next seen (a :: waiting) order
  | new {seen waiting below after : List α} {a : α} (ha : a ∉ seen)
      (hbelow : DepthFirst next (a :: seen) (next a) below)
      (hafter : DepthFirst next (below ++ a :: seen) waiting after) :
      DepthFirst next seen (a :: waiting) (a :: (below ++ after))

namespace DepthFirst

variable {α : Type} {next : α → List α} {seen waiting order : List α}

theorem unique {order' : List α} (h : DepthFirst next seen waiting order)
    (h' : DepthFirst next seen waiting order') : order = order' := by
  induction h generalizing order' with
  | done seen =>
      cases h'
      rfl
  | old ha _ ih =>
      cases h' with
      | old _ h' => exact ih h'
      | new ha' _ _ => exact absurd ha ha'
  | new ha _ _ ihbelow ihafter =>
      cases h' with
      | old ha' _ => exact absurd ha' ha
      | new _ hbelow' hafter' =>
          obtain rfl := ihbelow hbelow'
          obtain rfl := ihafter hafter'
          rfl

/-- No node is met twice, and none that was seen. -/
theorem nodup (h : DepthFirst next seen waiting order) : order.Nodup ∧ ∀ a ∈ order, a ∉ seen := by
  induction h with
  | done seen => exact ⟨List.nodup_nil, by simp⟩
  | old _ _ ih => exact ih
  | @new seen waiting below after a ha _ _ ihbelow ihafter =>
      obtain ⟨hbelow, hbelowSeen⟩ := ihbelow
      obtain ⟨hafter, hafterSeen⟩ := ihafter
      simp only [List.mem_append, List.mem_cons, not_or] at hbelowSeen hafterSeen
      refine ⟨List.nodup_cons.mpr ⟨?_, List.nodup_append.mpr ⟨hbelow, hafter, ?_⟩⟩, ?_⟩
      · rw [List.mem_append, not_or]
        exact ⟨fun hmem => (hbelowSeen a hmem).1 rfl, fun hmem => (hafterSeen a hmem).2.1 rfl⟩
      · rintro b hb c hc rfl
        exact (hafterSeen b hc).1 hb
      · intro b hb
        rcases List.mem_cons.mp hb with rfl | hb
        · exact ha
        · rcases List.mem_append.mp hb with hb | hb
          · exact (hbelowSeen b hb).2
          · exact (hafterSeen b hb).2.2

/-- Every node that is met is reached from one that waits. -/
theorem reached (h : DepthFirst next seen waiting order) :
    ∀ c ∈ order, ∃ a ∈ waiting, Relation.ReflTransGen (fun a b => b ∈ next a) a c := by
  induction h with
  | done seen => simp
  | old _ _ ih =>
      intro c hc
      obtain ⟨a, ha, hac⟩ := ih c hc
      exact ⟨a, List.mem_cons_of_mem _ ha, hac⟩
  | @new seen waiting below after a _ _ _ ihbelow ihafter =>
      intro c hc
      rcases List.mem_cons.mp hc with rfl | hc
      · exact ⟨c, List.mem_cons_self, .refl⟩
      · rcases List.mem_append.mp hc with hc | hc
        · obtain ⟨b, hb, hbc⟩ := ihbelow c hc
          exact ⟨a, List.mem_cons_self, .head hb hbc⟩
        · obtain ⟨b, hb, hbc⟩ := ihafter c hc
          exact ⟨b, List.mem_cons_of_mem _ hb, hbc⟩

/-- What holds of the nodes that wait, and of whatever a node leads to, holds of every node that is met. -/
theorem forall_mem (h : DepthFirst next seen waiting order) {P : α → Prop}
    (hwaiting : ∀ a ∈ waiting, P a) (hnext : ∀ a, ∀ b ∈ next a, P b) : ∀ c ∈ order, P c := by
  intro c hc
  obtain ⟨a, ha, hac⟩ := h.reached c hc
  rcases Relation.ReflTransGen.cases_tail hac with rfl | ⟨b, _, hbc⟩
  · exact hwaiting _ ha
  · exact hnext b c hbc

/-- What waits, and what a node that is met leads to, is met or was seen. -/
theorem closed (h : DepthFirst next seen waiting order) :
    (∀ a ∈ waiting, a ∈ seen ∨ a ∈ order) ∧
      ∀ c ∈ order, ∀ d ∈ next c, d ∈ seen ∨ d ∈ order := by
  induction h with
  | done seen => simp
  | old ha _ ih => exact ⟨List.forall_mem_cons.mpr ⟨Or.inl ha, ih.1⟩, ih.2⟩
  | @new seen waiting below after a _ _ _ ihbelow ihafter =>
      obtain ⟨hnext, hbelow⟩ := ihbelow
      obtain ⟨hwaiting, hafter⟩ := ihafter
      constructor
      · intro b hb
        rcases List.mem_cons.mp hb with rfl | hb
        · exact Or.inr List.mem_cons_self
        · grind [hwaiting b hb]
      · intro c hc d hd
        rcases List.mem_cons.mp hc with rfl | hc
        · grind [hnext d hd]
        · rcases List.mem_append.mp hc with hc | hc
          · grind [hbelow c hc d hd]
          · grind [hafter c hc d hd]

theorem of_singleton {a : α} (h : DepthFirst next [] [a] order) :
    ∃ below, order = a :: below ∧ DepthFirst next [a] (next a) below := by
  cases h with
  | old ha _ => exact absurd ha List.not_mem_nil
  | @new _ _ below after _ _ hbelow hafter =>
      cases hafter
      exact ⟨below, by rw [List.append_nil], hbelow⟩

/-- A visit that has seen nothing meets what is reached from the nodes that wait, and nothing else. -/
theorem mem_iff (h : DepthFirst next [] waiting order) {c : α} :
    c ∈ order ↔ ∃ a ∈ waiting, Relation.ReflTransGen (fun a b => b ∈ next a) a c := by
  refine ⟨h.reached c, ?_⟩
  rintro ⟨a, ha, hac⟩
  obtain ⟨hwaiting, hclosed⟩ := h.closed
  induction hac with
  | refl => simpa using hwaiting a ha
  | tail _ hcd ih => simpa using hclosed _ ih _ hcd

open Classical in
/-- A visit of finitely many nodes comes to an end, also where they lead back to each other. -/
theorem exists_order (nodes : List α) (hnodes : ∀ a ∈ nodes, ∀ b ∈ next a, b ∈ nodes)
    (seen waiting : List α) (hwaiting : ∀ a ∈ waiting, a ∈ nodes) :
    ∃ order, DepthFirst next seen waiting order := by
  induction hn : (nodes.filter fun b => decide (b ∉ seen)).length using Nat.strongRecOn
    generalizing seen waiting with
  | _ n ih =>
      induction waiting with
      | nil => exact ⟨[], .done seen⟩
      | cons a waiting ihwaiting =>
          obtain ⟨ha, hrest⟩ := List.forall_mem_cons.mp hwaiting
          by_cases hseen : a ∈ seen
          · obtain ⟨order, horder⟩ := ihwaiting hrest
            exact ⟨order, .old hseen horder⟩
          · -- With the new node, and whatever is met below it, fewer nodes are left.
            have hlt : ∀ more, (nodes.filter fun b => decide (b ∉ more ++ a :: seen)).length < n := by
              intro more
              have hfilter : (nodes.filter fun b => decide (b ∉ seen)).filter
                  (fun b => decide (b ∉ more ++ a :: seen)) =
                    nodes.filter fun b => decide (b ∉ more ++ a :: seen) := by
                rw [List.filter_filter]
                refine List.filter_congr fun b _ => ?_
                rw [Bool.and_eq_left_iff_imp]
                intro hb
                have hnot := of_decide_eq_true hb
                exact decide_eq_true fun hmem => hnot (by simp [hmem])
              rw [← hn, ← hfilter, List.length_filter_lt_length_iff_exists]
              exact ⟨a, List.mem_filter.mpr ⟨ha, decide_eq_true hseen⟩, by simp⟩
            obtain ⟨below, hbelow⟩ := ih _ (hlt []) _ _ (hnodes a ha) rfl
            obtain ⟨after, hafter⟩ := ih _ (hlt below) _ _ hrest rfl
            exact ⟨_, .new hseen hbelow hafter⟩

end DepthFirst

end SourceFacts
