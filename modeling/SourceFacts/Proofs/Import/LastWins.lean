import Mathlib.Data.List.Dedup
import SourceFacts.Proofs.Import.Binding

/-!
# The last binding of a name wins

A map of imports is filled by steps that bind a name or note a module imported whole. What it holds
after any run of them is the bindings of the run without those that a later one replaces.
-/

namespace SourceFacts

/-- The bindings that no later one of the same name follows. -/
def lastOfEach : List Import → List Import
  | [] => []
  | i :: rest =>
    if (rest.map (·.localName)).contains i.localName then lastOfEach rest else i :: lastOfEach rest

theorem map_localName_lastOfEach (is : List Import) :
    (lastOfEach is).map (·.localName) = (is.map (·.localName)).dedup := by
  induction is with
  | nil => rfl
  | cons i rest ih =>
      rw [lastOfEach, List.map_cons]
      by_cases hlater : i.localName ∈ rest.map (·.localName)
      · rw [if_pos (List.contains_iff_mem.mpr hlater), ih, List.dedup_cons_of_mem hlater]
      · rw [if_neg (mt List.contains_iff_mem.mp hlater), List.map_cons, ih,
          List.dedup_cons_of_notMem hlater]

/-- A binding at the end replaces those of its name. -/
theorem lastOfEach_concat (is : List Import) (i : Import) :
    lastOfEach (is ++ [i]) = (lastOfEach is).filter (fun e => e.localName != i.localName) ++ [i] := by
  induction is with
  | nil => rfl
  | cons j rest ih =>
      rw [List.cons_append, lastOfEach, lastOfEach, ih]
      by_cases hlater : j.localName ∈ rest.map (·.localName)
      · have hstill : j.localName ∈ (rest ++ [i]).map (·.localName) := by
          rw [List.map_append]
          exact List.mem_append_left _ hlater
        rw [if_pos (List.contains_iff_mem.mpr hlater), if_pos (List.contains_iff_mem.mpr hstill)]
      · rw [if_neg (mt List.contains_iff_mem.mp hlater)]
        by_cases hsame : j.localName = i.localName
        · have hnow : j.localName ∈ (rest ++ [i]).map (·.localName) := by simp [hsame]
          rw [if_pos (List.contains_iff_mem.mpr hnow), List.filter_cons_of_neg (by simp [hsame])]
        · have hnever : j.localName ∉ (rest ++ [i]).map (·.localName) := by
            rw [List.map_append, List.mem_append, List.map_singleton, List.mem_singleton]
            exact not_or_intro hlater hsame
          rw [if_neg (mt List.contains_iff_mem.mp hnever), List.filter_cons_of_pos (by simp [hsame])]
          rfl

theorem find?_lastOfEach (name : String) (is : List Import) :
    (lastOfEach is).find? (fun e => e.localName == name) =
      (is.filter fun e => e.localName == name).getLast? := by
  induction is with
  | nil => rfl
  | cons i rest ih =>
      rw [lastOfEach]
      by_cases hsame : i.localName = name
      · rw [List.filter_cons_of_pos (by simp [hsame]), List.getLast?_cons]
        by_cases hlater : i.localName ∈ rest.map (·.localName)
        · rw [if_pos (List.contains_iff_mem.mpr hlater), ih]
          obtain ⟨j, hj, hname⟩ := List.mem_map.mp hlater
          have hne : (rest.filter fun e => e.localName == name) ≠ [] :=
            List.ne_nil_of_mem (List.mem_filter.mpr ⟨hj, by simp [hname, hsame]⟩)
          rw [List.getLast?_eq_some_getLast hne, Option.getD_some]
        · have hnone : (rest.filter fun e => e.localName == name) = [] := by
            refine List.filter_eq_nil_iff.mpr fun j hj heq => hlater ?_
            exact List.mem_map.mpr ⟨j, hj, (beq_iff_eq.mp heq).trans hsame.symm⟩
          rw [if_neg (mt List.contains_iff_mem.mp hlater), List.find?_cons_of_pos (by simp [hsame]),
            hnone]
          rfl
      · rw [List.filter_cons_of_neg (by simp [hsame]), ← ih]
        by_cases hlater : i.localName ∈ rest.map (·.localName)
        · rw [if_pos (List.contains_iff_mem.mpr hlater)]
        · rw [if_neg (mt List.contains_iff_mem.mp hlater), List.find?_cons_of_neg (by simp [hsame])]

namespace ImportMap

/-- The map is the view of a list of bindings in which the last one of a name wins. -/
structure LastWins (m : ImportMap) (is : List Import) : Prop where
  entries : m.entries = lastOfEach is
  get : ∀ name, m.get? name = (is.filter fun i => i.localName == name).getLast?
  contains : ∀ name, m.contains name = (is.map (·.localName)).contains name
  size : m.size = (is.map (·.localName)).dedup.length
  distinct : (m.entries.map (·.localName)).Nodup

theorem LastWins.of_entries {m : ImportMap} {is : List Import} (h : m.entries = lastOfEach is) :
    m.LastWins is := by
  have hnames : m.entries.map (·.localName) = (is.map (·.localName)).dedup := by
    rw [h, map_localName_lastOfEach]
  refine ⟨h, fun name => ?_, fun name => ?_, ?_, ?_⟩
  · rw [get?, h, find?_lastOfEach]
  · have hmem : name ∈ m.entries.map (·.localName) ↔ name ∈ is.map (·.localName) := by
      rw [hnames, List.mem_dedup]
    rw [Bool.eq_iff_iff, List.contains_iff_mem, ← hmem, ImportMap.contains, List.any_eq_true,
      List.mem_map]
    simp only [beq_iff_eq]
  · rw [ImportMap.size, ← hnames, List.length_map]
  · rw [hnames]
    exact List.nodup_dedup _

/-- One change of a map of imports. -/
inductive Step where
  | bind (i : Import)
  | whole (module : String)

def Step.bound? : Step → Option Import
  | .bind i => some i
  | .whole _ => none

def Step.whole? : Step → Option String
  | .bind _ => none
  | .whole module => some module

def step (m : ImportMap) : Step → ImportMap
  | .bind i => m.add i
  | .whole module => m.addWildcard module

theorem entries_step {m : ImportMap} {is : List Import} (h : m.entries = lastOfEach is) (s : Step) :
    (m.step s).entries = lastOfEach (is ++ s.bound?.toList) := by
  cases s with
  | bind i => rw [step, add, h, Step.bound?, Option.toList_some, lastOfEach_concat]
  | whole module => rw [step, addWildcard, h, Step.bound?, Option.toList_none, List.append_nil]

theorem wildcards_step (m : ImportMap) (s : Step) :
    (m.step s).wildcards = m.wildcards ++ s.whole?.toList := by
  cases s with
  | bind i => exact (List.append_nil _).symm
  | whole module => rfl

theorem entries_foldl_step (steps : List Step) {m : ImportMap} {is : List Import}
    (h : m.entries = lastOfEach is) :
    (steps.foldl step m).entries = lastOfEach (is ++ steps.filterMap Step.bound?) := by
  induction steps generalizing m is with
  | nil => simpa using h
  | cons s rest ih =>
      rw [List.foldl_cons, ih (entries_step h s), List.filterMap_cons, List.append_assoc]
      cases s <;> rfl

theorem wildcards_foldl_step (steps : List Step) (m : ImportMap) :
    (steps.foldl step m).wildcards = m.wildcards ++ steps.filterMap Step.whole? := by
  induction steps generalizing m with
  | nil => exact (List.append_nil _).symm
  | cons s rest ih =>
      rw [List.foldl_cons, ih, wildcards_step, List.filterMap_cons, List.append_assoc]
      cases s <;> rfl

end ImportMap

namespace ImportReading

open ImportMap

/-- The changes that a statement makes. -/
def steps (r : ImportReading) : List Step :=
  r.wildcards.map .whole ++ r.bindings.map .bind

theorem take_eq_foldl_step (m : ImportMap) (r : ImportReading) : m.take r = r.steps.foldl step m := by
  rw [steps, List.foldl_append, List.foldl_map, List.foldl_map]
  rfl

theorem foldl_take_eq (rs : List ImportReading) (m : ImportMap) :
    rs.foldl take m = (rs.flatMap steps).foldl step m := by
  have htake : ImportMap.take = fun m r => r.steps.foldl step m :=
    funext fun m => funext fun r => take_eq_foldl_step m r
  rw [List.foldl_flatMap, htake]

theorem filterMap_bound?_steps (r : ImportReading) : r.steps.filterMap Step.bound? = r.bindings := by
  rw [steps, List.filterMap_append, List.filterMap_map, List.filterMap_map]
  simp [Function.comp_def, Step.bound?]

theorem filterMap_whole?_steps (r : ImportReading) : r.steps.filterMap Step.whole? = r.wildcards := by
  rw [steps, List.filterMap_append, List.filterMap_map, List.filterMap_map]
  simp [Function.comp_def, Step.whole?]

/-- A statement imports a module whole or binds names, not both. -/
theorem wildcards_or_bindings (src : Source) (file : String) (statement : Node) :
    (ofStatement src file statement).wildcards = [] ∨
      (ofStatement src file statement).bindings = [] := by
  unfold ofStatement
  split
  · exact Or.inl rfl
  split
  · exact Or.inl rfl
  split
  · exact Or.inl rfl
  dsimp only
  split
  · exact Or.inr rfl
  · exact Or.inl rfl

theorem take_of_wildcards (src : Source) (file : String) (statement : Node) (m : ImportMap)
    (h : (ofStatement src file statement).wildcards ≠ []) :
    m.take (ofStatement src file statement) =
      { m with wildcards := m.wildcards ++ (ofStatement src file statement).wildcards } := by
  have hbindings := (wildcards_or_bindings src file statement).resolve_left h
  have hwildcards : (m.take (ofStatement src file statement)).wildcards =
      m.wildcards ++ (ofStatement src file statement).wildcards := by
    rw [take_eq_foldl_step, wildcards_foldl_step, filterMap_whole?_steps]
  have hentries : (m.take (ofStatement src file statement)).entries = m.entries := by
    rw [ImportMap.take, hbindings, List.foldl_nil, entries_foldl_addWildcard]
  rw [← hwildcards, ← hentries]

end ImportReading

open ImportMap in
/-- The map of the module is the view of the bindings of the file in which the last one of a name wins,
whatever modules are imported whole; and so is every map of imports of the steps that filled it. -/
theorem import_map_last_wins (src : Source) (file : String) (root : Node) :
    let found := FileImports.ofTree src file root
    let readings := root.importsWithin.map (ImportReading.ofStatement src file)
    found.moduleMap.LastWins found.imports ∧
    found.moduleMap.wildcards = readings.flatMap (·.wildcards) ∧
    (∀ statement (m : ImportMap), (ImportReading.ofStatement src file statement).wildcards ≠ [] →
      m.take (ImportReading.ofStatement src file statement) =
        { m with wildcards :=
            m.wildcards ++ (ImportReading.ofStatement src file statement).wildcards }) ∧
    ∀ steps : List Step,
      (steps.foldl step {}).LastWins (steps.filterMap Step.bound?) ∧
      (steps.foldl step {}).wildcards = steps.filterMap Step.whole? := by
  intro found readings
  have hrun : ∀ steps : List Step,
      (steps.foldl step {}).LastWins (steps.filterMap Step.bound?) ∧
      (steps.foldl step {}).wildcards = steps.filterMap Step.whole? := fun steps =>
    ⟨.of_entries (@entries_foldl_step steps {} [] rfl), wildcards_foldl_step steps {}⟩
  obtain ⟨hmap, hwhole⟩ := hrun (readings.flatMap ImportReading.steps)
  rw [List.filterMap_flatMap] at hmap hwhole
  simp only [ImportReading.filterMap_bound?_steps, ImportReading.filterMap_whole?_steps,
    ← ImportReading.foldl_take_eq] at hmap hwhole
  exact ⟨hmap, hwhole, fun statement m => ImportReading.take_of_wildcards src file statement m, hrun⟩

end SourceFacts
