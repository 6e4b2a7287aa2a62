import SourceFacts.Import.Statement
import SourceFacts.Proofs.Dictionary

/-!
# Where bindings come from

Every binding of a map was made by an import statement: of the module, or of the body of a function.
-/

namespace SourceFacts

namespace ImportMap

theorem mem_entries_of_get? {m : ImportMap} {name : String} {i : Import}
    (h : m.get? name = some i) : i ∈ m.entries :=
  List.mem_of_find?_eq_some h

theorem mem_entries_foldl_add {bindings : List Import} {m : ImportMap} {i : Import}
    (h : i ∈ (bindings.foldl add m).entries) : i ∈ m.entries ∨ i ∈ bindings := by
  induction bindings generalizing m with
  | nil => exact Or.inl h
  | cons b rest ih =>
      rcases ih h with h | h
      · rcases List.mem_append.mp h with h | h
        · exact Or.inl (List.mem_filter.mp h).1
        · exact Or.inr (List.mem_cons.mpr (Or.inl (List.mem_singleton.mp h)))
      · exact Or.inr (List.mem_cons_of_mem _ h)

theorem entries_foldl_addWildcard (wildcards : List String) (m : ImportMap) :
    (wildcards.foldl addWildcard m).entries = m.entries := by
  induction wildcards generalizing m with
  | nil => rfl
  | cons w rest ih => exact ih (m.addWildcard w)

theorem mem_entries_take {m : ImportMap} {r : ImportReading} {i : Import}
    (h : i ∈ (m.take r).entries) : i ∈ m.entries ∨ i ∈ r.bindings := by
  have hcases := mem_entries_foldl_add h
  rwa [entries_foldl_addWildcard] at hcases

theorem mem_entries_foldl_take {rs : List ImportReading} {m : ImportMap} {i : Import}
    (h : i ∈ (rs.foldl take m).entries) : i ∈ m.entries ∨ ∃ r ∈ rs, i ∈ r.bindings := by
  induction rs generalizing m with
  | nil => exact Or.inl h
  | cons r rest ih =>
      rcases ih h with h | ⟨r', hr', h⟩
      · exact (mem_entries_take h).imp_right fun h => ⟨r, List.mem_cons_self, h⟩
      · exact Or.inr ⟨r', List.mem_cons_of_mem _ hr', h⟩

theorem get?_of_isEmpty {m : ImportMap} (h : m.isEmpty = true) (name : String) :
    m.get? name = none := by
  have hentries : m.entries = [] := by
    simpa using (Bool.and_eq_true_iff.mp h).1
  rw [get?, hentries, List.find?_nil]

end ImportMap

variable (src : Source) (file : String)

/-- What the import statements met from a node on bind. -/
def importsFrom (region : Node) : ImportMap :=
  (region.importsWithin.map (ImportReading.ofStatement src file)).foldl ImportMap.take {}

/-- What the import statements in the body of a function bind. -/
def ownImports (function : Node) : ImportMap :=
  ((function.child? "body").map (importsFrom src file)).getD {}

/-- An import statement of the module, or of the body of one of its functions, makes the binding. -/
def BoundIn (root : Node) (i : Import) : Prop :=
  ∃ region ∈ root :: root.functions.filterMap (·.child? "body"),
    ∃ statement ∈ region.importsWithin, i ∈ (ImportReading.ofStatement src file statement).bindings

variable {src file}

theorem mem_importsFrom {region : Node} {i : Import} (h : i ∈ (importsFrom src file region).entries) :
    ∃ statement ∈ region.importsWithin,
      i ∈ (ImportReading.ofStatement src file statement).bindings := by
  rcases ImportMap.mem_entries_foldl_take h with h | ⟨r, hr, hi⟩
  · exact absurd h List.not_mem_nil
  · obtain ⟨statement, hst, rfl⟩ := List.mem_map.mp hr
    exact ⟨statement, hst, hi⟩

/-! ## The maps of a file -/

/-- The map of a function is kept under the offset of the function, unless it is empty. -/
theorem localMaps_ofTree (src : Source) (file : String) (root : Node) :
    (FileImports.ofTree src file root).localMaps =
      Dictionary.ofList ((root.functions.map fun f => (f.start, ownImports src file f)).filter
        fun e => !e.2.isEmpty) := by
  refine congrArg Dictionary.ofList ?_
  induction root.functions with
  | nil => rfl
  | cons f rest ih =>
      cases hb : f.child? "body" with
      | none =>
          have hlocal : localImports? src file f = none := by rw [localImports?, hb, Option.map_none]
          have hown : (ownImports src file f).isEmpty = true := by simp [ownImports, hb, ImportMap.isEmpty]
          rw [List.filterMap_cons_none hlocal, List.map_cons, List.filter_cons_of_neg (by simp [hown])]
          exact ih
      | some body =>
          have hlocal : localImports? src file f = some (f.start,
              body.importsWithin.map (ImportReading.ofStatement src file)) := by
            rw [localImports?, hb, Option.map_some]
          have hown : (body.importsWithin.map (ImportReading.ofStatement src file)).foldl
              ImportMap.take {} = ownImports src file f := by
            rw [ownImports, hb, Option.map_some, Option.getD_some, importsFrom]
          rw [List.filterMap_cons_some hlocal, List.map_cons, List.map_cons, List.filter_cons,
            List.filter_cons, ih]
          simp only [hown]

theorem boundIn_of_moduleMap {root : Node} {i : Import}
    (h : i ∈ (FileImports.ofTree src file root).moduleMap.entries) : BoundIn src file root i := by
  obtain ⟨statement, hst, hi⟩ := mem_importsFrom h
  exact ⟨root, List.mem_cons_self, statement, hst, hi⟩

theorem boundIn_of_localMaps {root : Node} {start : Nat} {m : ImportMap} {i : Import}
    (hm : (start, m) ∈ (FileImports.ofTree src file root).localMaps.entries) (hi : i ∈ m.entries) :
    BoundIn src file root i := by
  rw [localMaps_ofTree] at hm
  obtain ⟨hmem, _⟩ := List.mem_filter.mp (Dictionary.mem_of_mem_ofList hm)
  obtain ⟨f, hf, heq⟩ := List.mem_map.mp hmem
  cases heq
  unfold ownImports at hi
  cases hb : f.child? "body" with
  | none =>
      rw [hb] at hi
      exact absurd hi List.not_mem_nil
  | some body =>
      rw [hb] at hi
      obtain ⟨statement, hst, hi⟩ := mem_importsFrom hi
      have hregion : body ∈ root.functions.filterMap (·.child? "body") :=
        List.mem_filterMap.mpr ⟨f, hf, hb⟩
      exact ⟨body, List.mem_cons_of_mem _ hregion, statement, hst, hi⟩

end SourceFacts
