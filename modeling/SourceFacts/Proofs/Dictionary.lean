import Mathlib.Data.List.Induction
import Mathlib.Data.List.Nodup
import SourceFacts.Dictionary

/-!
# Dictionaries made from lists

A dictionary made by assignments one after the other answers with the last assignment to a key.
Without repeated keys it is the list itself.
-/

namespace SourceFacts.Dictionary

variable {κ α : Type} [DecidableEq κ]

theorem mem_entries_of_get? {d : Dictionary κ α} {k : κ} {v : α} (h : d.get? k = some v) :
    (k, v) ∈ d.entries := by
  obtain ⟨e, he, rfl⟩ := Option.map_eq_some_iff.mp h
  have hk : e.1 = k := by simpa using List.find?_some he
  exact hk ▸ List.mem_of_find?_eq_some he

theorem mem_putEntry {k : κ} {v : α} {l : List (κ × α)} {e : κ × α} (h : e ∈ putEntry k v l) :
    e = (k, v) ∨ e ∈ l := by
  induction l with
  | nil => exact Or.inl (by simpa [putEntry] using h)
  | cons x rest ih =>
      obtain ⟨a, b⟩ := x
      unfold putEntry at h
      split at h
      · rename_i ha
        rcases List.mem_cons.mp h with rfl | h
        · exact Or.inl (by rw [ha])
        · exact Or.inr (List.mem_cons_of_mem _ h)
      · rcases List.mem_cons.mp h with rfl | h
        · exact Or.inr List.mem_cons_self
        · exact (ih h).imp_right (List.mem_cons_of_mem _)

theorem putEntry_of_notMem {k : κ} {v : α} {l : List (κ × α)} (h : k ∉ l.map (·.1)) :
    putEntry k v l = l ++ [(k, v)] := by
  induction l with
  | nil => rfl
  | cons x rest ih =>
      obtain ⟨a, b⟩ := x
      simp only [List.map_cons, List.mem_cons, not_or] at h
      simp only [putEntry, if_neg (Ne.symm h.1), ih h.2, List.cons_append]

/-- A key that has a value keeps it. -/
theorem get?_putNew (d : Dictionary κ α) (k k' : κ) (v : α) :
    (d.putNew k v).get? k' = (d.get? k').or (if k = k' then some v else none) := by
  unfold putNew
  by_cases hk : k = k'
  · subst hk
    cases h : d.get? k <;> simp [h]
  · cases d.get? k <;> simp [hk]

/-! ## Other values -/

/-- The dictionary with each value changed. -/
def mapValues {β : Type} (f : α → β) (d : Dictionary κ α) : Dictionary κ β :=
  ⟨d.entries.map fun e => (e.1, f e.2)⟩

theorem putEntry_map {β : Type} (f : α → β) (k : κ) (v : α) (l : List (κ × α)) :
    putEntry k (f v) (l.map fun e => (e.1, f e.2)) =
      (putEntry k v l).map fun e => (e.1, f e.2) := by
  induction l with
  | nil => rfl
  | cons e rest ih =>
      obtain ⟨a, b⟩ := e
      by_cases h : a = k <;> simp [putEntry, h, ih]

theorem put_mapValues {β : Type} (f : α → β) (d : Dictionary κ α) (k : κ) (v : α) :
    (d.mapValues f).put k (f v) = (d.put k v).mapValues f :=
  congrArg Dictionary.mk (putEntry_map f k v d.entries)

theorem get?_mapValues {β : Type} (f : α → β) (d : Dictionary κ α) (k : κ) :
    (d.mapValues f).get? k = (d.get? k).map f := by
  simp [mapValues, get?, List.find?_map, Function.comp_def]

theorem get?_of_mem_entries {d : Dictionary κ α} (h : d.keys.Nodup) {k : κ} {v : α}
    (he : (k, v) ∈ d.entries) : d.get? k = some v := by
  have hfound : (d.entries.find? fun e => decide (e.1 = k)).isSome = true :=
    List.find?_isSome.mpr ⟨_, he, decide_eq_true rfl⟩
  obtain ⟨e, hfind⟩ := Option.isSome_iff_exists.mp hfound
  have hk : e.1 = k := by simpa using List.find?_some hfind
  have heq := List.inj_on_of_nodup_map h (List.mem_of_find?_eq_some hfind) he hk
  rw [get?, hfind, Option.map_some, heq]

/-! ## From a list -/

@[simp]
theorem ofList_concat (l : List (κ × α)) (e : κ × α) :
    ofList (l ++ [e]) = (ofList l).put e.1 e.2 := by
  simp [ofList]

/-- A look-up sees the last assignment to its key. -/
theorem get?_ofList (l : List (κ × α)) (k : κ) :
    (ofList l).get? k = ((l.filter fun e => decide (e.1 = k)).getLast?).map (·.2) := by
  induction l using List.reverseRecOn with
  | nil => rfl
  | append_singleton l e ih =>
      rw [ofList_concat, get?_put, ih, List.filter_append]
      by_cases h : e.1 = k <;> simp [h]

theorem mem_of_mem_ofList {l : List (κ × α)} {e : κ × α} (h : e ∈ (ofList l).entries) : e ∈ l := by
  induction l using List.reverseRecOn with
  | nil => exact absurd h List.not_mem_nil
  | append_singleton l x ih =>
      rw [ofList_concat] at h
      rcases mem_putEntry h with rfl | h
      · simp
      · exact List.mem_append_left _ (ih h)

theorem mem_of_get?_ofList {l : List (κ × α)} {k : κ} {v : α} (h : (ofList l).get? k = some v) :
    (k, v) ∈ l :=
  mem_of_mem_ofList (mem_entries_of_get? h)

theorem nodup_keys_ofList (l : List (κ × α)) : (ofList l).keys.Nodup := by
  induction l using List.reverseRecOn with
  | nil => exact List.nodup_nil
  | append_singleton l e ih =>
      rw [ofList_concat, keys_put]
      split
      · exact ih
      · rename_i hnew
        exact List.concat_eq_append ▸ ih.concat hnew

/-- The keys are those that are assigned to, in the order in which they first are. -/
theorem keys_ofList (l : List (κ × α)) : (ofList l).keys = (l.map (·.1)).eraseDups := by
  induction l using List.reverseRecOn with
  | nil => rfl
  | append_singleton l e ih =>
      rw [ofList_concat, keys_put, ih, List.map_append, List.eraseDups_append]
      by_cases h : e.1 ∈ l.map (·.1)
      · rw [if_pos (List.mem_eraseDups.mpr h)]
        simp [List.removeAll, h]
      · rw [if_neg (mt List.mem_eraseDups.mp h)]
        simp [List.removeAll, h, List.eraseDups_cons]

theorem values_eq_filterMap_keys {d : Dictionary κ α} (h : d.keys.Nodup) :
    d.values = d.keys.filterMap d.get? := by
  rw [values, keys, List.filterMap_map, ← List.filterMap_eq_map]
  exact List.filterMap_congr fun e he => (get?_of_mem_entries h he).symm

/-- Values that tell their keys tell different ones. -/
theorem nodup_map_values_ofList {f : α → κ} {l : List (κ × α)} (h : ∀ e ∈ l, f e.2 = e.1) :
    ((ofList l).values.map f).Nodup := by
  have hkeys : (ofList l).values.map f = (ofList l).keys := by
    rw [values, keys, List.map_map]
    exact List.map_congr_left fun e he => h e (mem_of_mem_ofList he)
  rw [hkeys]
  exact nodup_keys_ofList l

theorem entries_ofList {l : List (κ × α)} (h : (l.map (·.1)).Nodup) : (ofList l).entries = l := by
  induction l using List.reverseRecOn with
  | nil => rfl
  | append_singleton l e ih =>
      rw [List.map_append, List.nodup_append] at h
      obtain ⟨hl, _, hne⟩ := h
      rw [ofList_concat, put, ih hl]
      exact putEntry_of_notMem fun hk => hne _ hk _ (by simp) rfl

theorem mem_entries_ofList_iff {l : List (κ × α)} {e : κ × α} :
    e ∈ (ofList l).entries ↔ ∃ before after, l = before ++ e :: after ∧ ∀ x ∈ after, x.1 ≠ e.1 := by
  have hget : e ∈ (ofList l).entries ↔ (ofList l).get? e.1 = some e.2 :=
    ⟨get?_of_mem_entries (nodup_keys_ofList l), mem_entries_of_get?⟩
  have hlast : (l.filter fun x => decide (x.1 = e.1)).getLast? =
      l.reverse.find? fun x => decide (x.1 = e.1) := by
    rw [List.getLast?_eq_head?_reverse, ← List.filter_reverse, List.head?_filter]
  rw [hget, get?_ofList, hlast, Option.map_eq_some_iff]
  constructor
  · rintro ⟨x, hx, hvalue⟩
    obtain ⟨hkey, after, before, hl, hafter⟩ := List.find?_eq_some_iff_append.mp hx
    obtain rfl : x = e := Prod.ext (of_decide_eq_true hkey) hvalue
    refine ⟨before.reverse, after.reverse, ?_, fun y hy => ?_⟩
    · simpa using congrArg List.reverse hl
    · simpa using hafter y (List.mem_reverse.mp hy)
  · rintro ⟨before, after, rfl, hafter⟩
    refine ⟨e, List.find?_eq_some_iff_append.mpr ⟨decide_eq_true rfl, after.reverse, before.reverse,
      by simp, fun y hy => ?_⟩, rfl⟩
    simpa using hafter y (List.mem_reverse.mp hy)

theorem get?_ofList_of_mem {l : List (κ × α)} (h : (l.map (·.1)).Nodup) {k : κ} {v : α}
    (hkv : (k, v) ∈ l) : (ofList l).get? k = some v := by
  have hmem : (k, v) ∈ l.filter fun e => decide (e.1 = k) :=
    List.mem_filter.mpr ⟨hkv, decide_eq_true rfl⟩
  have hlast := List.getLast?_eq_some_getLast (List.ne_nil_of_mem hmem)
  obtain ⟨hl, hk⟩ := List.mem_filter.mp (List.mem_of_getLast? hlast)
  have heq := List.inj_on_of_nodup_map h hl hkv (of_decide_eq_true hk)
  rw [get?_ofList, hlast, heq, Option.map_some]

end SourceFacts.Dictionary
