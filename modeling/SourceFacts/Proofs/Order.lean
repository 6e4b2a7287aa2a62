import Mathlib.Data.List.Sort
import Mathlib.Data.Prod.Lex
import SourceFacts.Order

/-!
# Sorting is stable

What sorting by a comparison keeps: the elements, the order of those that tie, and the order in
which the sorted part of a list stands in the sorted list.
-/

namespace SourceFacts

variable {α β : Type}

instance thenBy.transCmp (first second : α → α → Ordering) [Std.TransCmp first]
    [Std.TransCmp second] : Std.TransCmp (thenBy first second) :=
  inferInstanceAs (Std.TransCmp (compareLex first second))

/-- The first element does not come after the second one. -/
abbrev NotAfter (cmp : α → α → Ordering) (a b : α) : Prop := (cmp a b).isLE = true

section Comparison

variable (cmp : α → α → Ordering) [Std.TransCmp cmp]

theorem NotAfter.trans (a b c : α) (hab : (cmp a b).isLE = true) (hbc : (cmp b c).isLE = true) :
    (cmp a c).isLE = true :=
  Std.TransCmp.isLE_trans hab hbc

theorem NotAfter.total (a b : α) : ((cmp a b).isLE || (cmp b a).isLE) = true := by
  have hswap : cmp b a = (cmp a b).swap := Std.OrientedCmp.eq_swap
  rw [hswap]
  cases cmp a b <;> rfl

instance NotAfter.isTrans : IsTrans α (NotAfter cmp) := ⟨NotAfter.trans cmp⟩

/-! ## Sorted lists -/

theorem sortBy_pairwise (l : List α) : (sortBy cmp l).Pairwise (NotAfter cmp) :=
  List.pairwise_mergeSort (NotAfter.trans cmp) (NotAfter.total cmp) l

/-- The first element of a list is put before the sorted rest, behind all that come before it. -/
theorem sortBy_cons (a : α) (l : List α) :
    sortBy cmp (a :: l) = (sortBy cmp l).orderedInsert (NotAfter cmp) a := by
  obtain ⟨l₁, l₂, hcons, hl, hlt⟩ :=
    List.mergeSort_cons (NotAfter.trans cmp) (NotAfter.total cmp) a l
  have hsorted := sortBy_pairwise cmp (a :: l)
  unfold sortBy at hsorted ⊢
  rw [hcons] at hsorted
  rw [hcons, hl]
  clear hcons hl
  induction l₁ with
  | nil =>
      cases l₂ with
      | nil => rfl
      | cons b l₂ =>
          have hab : NotAfter cmp a b := (List.pairwise_cons.mp hsorted).1 b (by simp)
          exact (List.orderedInsert_cons_of_le _ l₂ hab).symm
  | cons b l₁ ih =>
      have hba : ¬ NotAfter cmp a b := by simpa using hlt b (by simp)
      rw [List.cons_append, List.cons_append, List.orderedInsert_of_not_le _ _ hba]
      rw [← ih (fun c hc => hlt c (by simp [hc])) (List.pairwise_cons.mp hsorted).2]

theorem sortBy_sublist {l₁ l₂ : List α} (h : l₁.Sublist l₂) :
    (sortBy cmp l₁).Sublist (sortBy cmp l₂) := by
  induction h with
  | slnil => exact List.Sublist.refl _
  | cons a _ ih =>
      rw [sortBy_cons]
      exact ih.trans (List.sublist_orderedInsert a _)
  | cons_cons a _ ih =>
      rw [sortBy_cons, sortBy_cons]
      exact ih.orderedInsert_sublist a (sortBy_pairwise cmp _)

/-- Elements none of which comes after another keep their order. -/
theorem filter_sortBy (p : α → Bool) (l : List α)
    (hp : ∀ a b, p a = true → p b = true → NotAfter cmp a b) :
    (sortBy cmp l).filter p = l.filter p := by
  have htie : (l.filter p).Pairwise (NotAfter cmp) :=
    List.pairwise_of_forall_mem_list fun a ha b hb =>
      hp a b (List.mem_filter.mp ha).2 (List.mem_filter.mp hb).2
  have hsub : (l.filter p).Sublist (sortBy cmp l) :=
    List.sublist_mergeSort (NotAfter.trans cmp) (NotAfter.total cmp) htie
      List.filter_sublist
  have hfilter : (l.filter p).Sublist ((sortBy cmp l).filter p) := by
    simpa using hsub.filter p
  exact (hfilter.eq_of_length ((sortBy_perm cmp l).filter p).length_eq.symm).symm

end Comparison

/-- Sorting goes through a map that respects the comparisons. -/
theorem map_sortBy {cmp : α → α → Ordering} {cmp' : β → β → Ordering} (f : α → β) (l : List α)
    (hf : ∀ a ∈ l, ∀ b ∈ l, cmp' (f a) (f b) = cmp a b) :
    (sortBy cmp l).map f = sortBy cmp' (l.map f) :=
  List.map_mergeSort fun a ha b hb => by rw [hf a ha b hb]

@[simp]
theorem mem_sortBy {cmp : α → α → Ordering} {l : List α} {a : α} : a ∈ sortBy cmp l ↔ a ∈ l :=
  (sortBy_perm cmp l).mem_iff

theorem map_sortBy_of_singleton {cmp : α → α → Ordering} {f : α → β} {l : List α} {b : β}
    (h : l.map f = [b]) : (sortBy cmp l).map f = [b] :=
  List.perm_singleton.mp (h ▸ (sortBy_perm cmp l).map f)

/-! ## What sorting does not see -/

theorem sortBy_of_pairwise {cmp : α → α → Ordering} {l : List α} (h : l.Pairwise (NotAfter cmp)) :
    sortBy cmp l = l :=
  List.mergeSort_of_pairwise h

section Comparison

variable (cmp : α → α → Ordering) [Std.TransCmp cmp]

theorem sortBy_sortBy (l : List α) : sortBy cmp (sortBy cmp l) = sortBy cmp l :=
  sortBy_of_pairwise (sortBy_pairwise cmp l)

/-- What is left out can be left out before or after sorting. -/
theorem sortBy_filter (p : α → Bool) (l : List α) :
    sortBy cmp (l.filter p) = (sortBy cmp l).filter p := by
  have hkept : (sortBy cmp (l.filter p)).filter p = sortBy cmp (l.filter p) :=
    List.filter_eq_self.mpr fun a ha => (List.mem_filter.mp (mem_sortBy.mp ha)).2
  have hsub : (sortBy cmp (l.filter p)).Sublist ((sortBy cmp l).filter p) :=
    hkept ▸ (sortBy_sublist cmp List.filter_sublist).filter p
  refine hsub.eq_of_length ?_
  rw [(sortBy_perm cmp (l.filter p)).length_eq, ((sortBy_perm cmp l).filter p).length_eq]

/-- Where only equal elements tie, the order of the elements before sorting does not count. -/
theorem sortBy_eq_of_perm {l l' : List α} (h : l.Perm l')
    (htie : ∀ a ∈ l, ∀ b ∈ l, cmp a b = .eq → a = b) : sortBy cmp l = sortBy cmp l' := by
  have hperm : (sortBy cmp l).Perm (sortBy cmp l') :=
    (sortBy_perm cmp l).trans (h.trans (sortBy_perm cmp l').symm)
  refine hperm.eq_of_pairwise (fun a b ha hb hab hba => ?_) (sortBy_pairwise cmp l)
    (sortBy_pairwise cmp l')
  refine htie a (mem_sortBy.mp ha) b (h.mem_iff.mpr (mem_sortBy.mp hb)) ?_
  exact Std.OrientedCmp.isLE_antisymm hab hba

end Comparison

/-- The list holds the elements of another one in order, those that tie in the order they had. -/
structure StablySorted (cmp : α → α → Ordering) (sorted l : List α) : Prop where
  perm : sorted.Perm l
  ordered : sorted.Pairwise (NotAfter cmp)
  stable : ∀ a, sorted.filter (fun b => cmp a b == .eq) = l.filter fun b => cmp a b == .eq

theorem stablySorted_sortBy (cmp : α → α → Ordering) [Std.TransCmp cmp] (l : List α) :
    StablySorted cmp (sortBy cmp l) l where
  perm := sortBy_perm cmp l
  ordered := sortBy_pairwise cmp l
  stable := by
    intro a
    refine filter_sortBy cmp _ l fun b c hb hc => ?_
    have hab : cmp a b = .eq := by simpa using hb
    have hac : cmp a c = .eq := by simpa using hc
    rw [NotAfter, ← Std.TransCmp.congr_left hab, hac]
    rfl

/-! ## Sets of texts -/

/-- Sorted texts without repetition increase. -/
theorem pairwise_lt_sortBy {l : List String} (h : l.Nodup) :
    (sortBy compare l).Pairwise fun s t => compare s t = .lt := by
  have hnodup : (sortBy compare l).Nodup := (sortBy_perm compare l).nodup_iff.mpr h
  refine ((sortBy_pairwise compare l).and hnodup).imp fun {s t} hst => ?_
  obtain ⟨hle, hne⟩ := hst
  cases hcompare : compare s t with
  | lt => rfl
  | eq => exact absurd (Std.LawfulEqOrd.eq_of_compare hcompare) hne
  | gt => simp [NotAfter, hcompare] at hle

theorem eraseRepsBy_loop (r : α → α → Bool) (a : α) (l acc : List α) :
    List.eraseRepsBy.loop r a l acc = acc.reverse ++ List.eraseRepsBy.loop r a l [] := by
  induction l generalizing a acc with
  | nil => simp [List.eraseRepsBy.loop]
  | cons b l ih =>
      simp only [List.eraseRepsBy.loop]
      split
      · exact ih a acc
      · rw [ih b (a :: acc), ih b [a], List.reverse_cons, List.append_assoc]
        rfl

/-- What is kept of sorted texts are the same texts, each once and still in order. -/
theorem eraseRepsBy_loop_sorted (a : String) (l : List String)
    (h : (a :: l).Pairwise (NotAfter compare)) :
    (∀ s, s ∈ List.eraseRepsBy.loop (· == ·) a l [] ↔ s ∈ a :: l) ∧
      (List.eraseRepsBy.loop (· == ·) a l []).Pairwise fun s t => compare s t = .lt := by
  induction l generalizing a with
  | nil => simp [List.eraseRepsBy.loop]
  | cons b l ih =>
      simp only [List.eraseRepsBy.loop]
      obtain ⟨ha, hbl⟩ := List.pairwise_cons.mp h
      split
      · rename_i hab
        obtain rfl : a = b := by simpa using hab
        obtain ⟨hmem, hpairwise⟩ := ih a hbl
        exact ⟨fun s => by rw [hmem s]; simp, hpairwise⟩
      · rename_i hab
        obtain ⟨hmem, hpairwise⟩ := ih b hbl
        rw [eraseRepsBy_loop]
        refine ⟨fun s => by simp [hmem s], List.pairwise_cons.mpr ⟨fun s hs => ?_, hpairwise⟩⟩
        have hlt : compare a b = .lt := by
          have hne : compare a b ≠ .eq := fun heq => by
            simp [Std.LawfulEqCmp.eq_of_compare heq] at hab
          exact (Ordering.isLE_iff_eq_lt_or_eq_eq.mp (ha b List.mem_cons_self)).resolve_right hne
        rcases List.mem_cons.mp ((hmem s).mp hs) with rfl | hs
        · exact hlt
        · exact Std.TransCmp.lt_of_lt_of_isLE hlt ((List.pairwise_cons.mp hbl).1 s hs)

theorem sortedSet_spec (l : List String) :
    (∀ s, s ∈ sortedSet l ↔ s ∈ l) ∧ (sortedSet l).Pairwise fun s t => compare s t = .lt := by
  unfold sortedSet List.eraseReps List.eraseRepsBy
  have hsorted := sortBy_pairwise compare l
  have hmem : ∀ s, s ∈ sortBy compare l ↔ s ∈ l := fun s => mem_sortBy
  split
  · rename_i hnil
    rw [hnil] at hmem
    exact ⟨hmem, .nil⟩
  · rename_i a rest hcons
    rw [hcons] at hmem hsorted
    obtain ⟨hloop, hpairwise⟩ := eraseRepsBy_loop_sorted a rest hsorted
    exact ⟨fun s => (hloop s).trans (hmem s), hpairwise⟩

theorem sortedSet_congr {l l' : List String} (h : ∀ s, s ∈ l ↔ s ∈ l') :
    sortedSet l = sortedSet l' := by
  obtain ⟨hmem, hpairwise⟩ := sortedSet_spec l
  obtain ⟨hmem', hpairwise'⟩ := sortedSet_spec l'
  have hirrefl : Std.Irrefl fun s t : String => compare s t = .lt :=
    ⟨fun s hs => by simp [Std.ReflOrd.compare_self] at hs⟩
  have hantisymm : Std.Antisymm fun s t : String => compare s t = .lt :=
    ⟨fun s t hst hts => by rw [Std.OrientedCmp.gt_of_lt hst] at hts; cases hts⟩
  exact hpairwise.eq_of_mem_iff hpairwise' fun s => (hmem s).trans ((h s).trans (hmem' s).symm)

/-! ## Keys -/

theorem notAfter_compareOn_iff {κ : Type} [LinearOrder κ] (f : α → κ) (a b : α) :
    NotAfter (compareOn f) a b ↔ f a ≤ f b := by
  unfold NotAfter compareOn
  rw [Ordering.isLE_iff_ne_gt, compare_gt_iff_gt.not, not_lt]

theorem notAfter_thenBy_iff {κ₁ κ₂ : Type} [LinearOrder κ₁] [LinearOrder κ₂] (f : α → κ₁)
    (g : α → κ₂) (a b : α) :
    NotAfter (thenBy (compareOn f) (compareOn g)) a b ↔ toLex (f a, g a) ≤ toLex (f b, g b) := by
  rw [Prod.Lex.toLex_le_toLex]
  unfold NotAfter thenBy compareOn
  rcases lt_trichotomy (f a) (f b) with h | h | h
  · simp [compare_lt_iff_lt.mpr h, h]
  · simp [h, Ordering.isLE_iff_ne_gt, compare_gt_iff_gt.not]
  · simp [compare_gt_iff_gt.mpr h, h.not_gt, h.ne']

end SourceFacts
