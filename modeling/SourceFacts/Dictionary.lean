/-!
# Dictionaries in order of insertion

A key keeps the place of its first insertion and the value of its last one.
-/

namespace SourceFacts

/-- Keys with values, in order of insertion. -/
structure Dictionary (κ α : Type) where
  entries : List (κ × α) := []

namespace Dictionary

variable {κ α β : Type} [DecidableEq κ]

/-- Replaces the value of a key, or adds the key at the end. -/
def putEntry (k : κ) (v : α) : List (κ × α) → List (κ × α)
  | [] => [(k, v)]
  | (k', v') :: rest => if k' = k then (k', v) :: rest else (k', v') :: putEntry k v rest

/-- The dictionary without entries. -/
def empty : Dictionary κ α := {}

/-- Gives a key a value. -/
def put (d : Dictionary κ α) (k : κ) (v : α) : Dictionary κ α :=
  ⟨putEntry k v d.entries⟩

/-- The value of a key. -/
def get? (d : Dictionary κ α) (k : κ) : Option α :=
  (d.entries.find? (fun e => decide (e.1 = k))).map (·.2)

/-- Gives a key a value unless it has one. -/
def putNew (d : Dictionary κ α) (k : κ) (v : α) : Dictionary κ α :=
  match d.get? k with
  | some _ => d
  | none => d.put k v

/-- The keys in order. -/
def keys (d : Dictionary κ α) : List κ :=
  d.entries.map (·.1)

/-- The values in the order of their keys. -/
def values (d : Dictionary κ α) : List α :=
  d.entries.map (·.2)

/-- The dictionary of a list of assignments, made one after the other. -/
def ofList (l : List (κ × α)) : Dictionary κ α :=
  l.foldl (fun d e => d.put e.1 e.2) empty

@[simp] theorem get?_empty (k : κ) : (empty : Dictionary κ α).get? k = none := rfl

theorem find?_putEntry (k k' : κ) (v : α) (l : List (κ × α)) :
    ((putEntry k v l).find? (fun e => decide (e.1 = k'))).map (·.2) =
      if k = k' then some v else (l.find? (fun e => decide (e.1 = k'))).map (·.2) := by
  induction l with
  | nil => by_cases h : k = k' <;> simp [putEntry, h]
  | cons e rest ih =>
    obtain ⟨a, b⟩ := e
    by_cases ha : a = k
    · by_cases h : k = k'
      · simp [putEntry, ha, h]
      · simp [putEntry, ha, h]
    · by_cases h : k = k'
      · have hne : ¬ a = k' := fun he => ha (he.trans h.symm)
        simp only [putEntry, ha, if_false]
        rw [List.find?_cons_of_neg (by simpa using hne), ih, if_pos h, if_pos h]
      · simp only [putEntry, ha, if_false, h]
        by_cases hk : a = k'
        · rw [List.find?_cons_of_pos (by simpa using hk), List.find?_cons_of_pos (by simpa using hk)]
        · rw [List.find?_cons_of_neg (by simpa using hk), List.find?_cons_of_neg (by simpa using hk),
            ih, if_neg h]

/-- A look-up sees the last value given to its key. -/
@[simp] theorem get?_put (d : Dictionary κ α) (k k' : κ) (v : α) :
    (d.put k v).get? k' = if k = k' then some v else d.get? k' :=
  find?_putEntry k k' v d.entries

theorem map_fst_putEntry (k : κ) (v : α) (l : List (κ × α)) :
    (putEntry k v l).map (·.1) =
      if k ∈ l.map (·.1) then l.map (·.1) else l.map (·.1) ++ [k] := by
  induction l with
  | nil => simp [putEntry]
  | cons e rest ih =>
    obtain ⟨a, b⟩ := e
    by_cases ha : a = k
    · subst ha
      simp [putEntry]
    · have hne : ¬ k = a := fun he => ha he.symm
      simp only [putEntry, ha, if_false, List.map_cons, ih, List.mem_cons, hne, false_or]
      by_cases h : k ∈ rest.map (·.1) <;> simp [h]

/-- A new key goes to the end; a known key keeps its place. -/
theorem keys_put (d : Dictionary κ α) (k : κ) (v : α) :
    (d.put k v).keys = if k ∈ d.keys then d.keys else d.keys ++ [k] :=
  map_fst_putEntry k v d.entries

end Dictionary

end SourceFacts
