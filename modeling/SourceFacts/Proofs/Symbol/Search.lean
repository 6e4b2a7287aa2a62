import Mathlib.Data.List.TakeWhile
import SourceFacts.Proofs.DepthFirst
import SourceFacts.Proofs.Symbol.Index
import SourceFacts.Proofs.Symbol.Registry

/-!
# Searching the bases of a class

The classes that the bases of a class lead to form a graph, which may have cycles. A method is looked
for in depth-first order, and it is found exactly if some class of the graph has it.
-/

namespace SourceFacts

open Definitions

/-! ## Around the last dot -/

namespace Text

theorem dot_notMem_of_isIdentifier {s : String} (h : isIdentifier s = true) : '.' ∉ s.toList := by
  have hstart : isIdentifierStart '.' = false := by decide +kernel
  have hpart : isIdentifierPart '.' = false := by decide +kernel
  unfold isIdentifier at h
  split at h
  · exact absurd h (by simp)
  · rename_i c cs hs
    obtain ⟨hc, hcs⟩ := Bool.and_eq_true_iff.mp h
    rw [hs]
    intro hdot
    rcases List.mem_cons.mp hdot with rfl | hdot
    · exact absurd (hstart.symm.trans hc) (by simp)
    · exact absurd (hpart.symm.trans (List.all_eq_true.mp hcs _ hdot)) (by simp)

theorem ne_dot_of_mem_reverse {s : String} (h : '.' ∉ s.toList) :
    ∀ c ∈ s.toList.reverse, (c != '.') = true := by
  intro c hc
  simpa using fun heq : c = '.' => h (heq ▸ List.mem_reverse.mp hc)

theorem toList_reverse_dotted (start s : String) :
    (start ++ "." ++ s).toList.reverse = s.toList.reverse ++ '.' :: start.toList.reverse := by
  simp

theorem lastPart_of_not_dotted {s : String} (h : '.' ∉ s.toList) : lastPart s = s := by
  have hall : s.toList.reverse.takeWhile (· != '.') = s.toList.reverse :=
    List.takeWhile_eq_self_iff.mpr (ne_dot_of_mem_reverse h)
  rw [lastPart, afterLast, hall, List.reverse_reverse, String.ofList_toList]

theorem lastPart_append {s : String} (h : '.' ∉ s.toList) (start : String) :
    lastPart (start ++ "." ++ s) = s := by
  have hpart : (start ++ "." ++ s).toList.reverse.takeWhile (· != '.') = s.toList.reverse := by
    rw [toList_reverse_dotted, List.takeWhile_append_of_pos (ne_dot_of_mem_reverse h)]
    simp
  rw [lastPart, afterLast, hpart, List.reverse_reverse, String.ofList_toList]

theorem earlierParts_append {s : String} (h : '.' ∉ s.toList) (start : String) :
    earlierParts (start ++ "." ++ s) = start := by
  have hrest : (start ++ "." ++ s).toList.reverse.dropWhile (· != '.') =
      '.' :: start.toList.reverse := by
    rw [toList_reverse_dotted, List.dropWhile_append_of_pos (ne_dot_of_mem_reverse h)]
    simp
  rw [earlierParts, beforeLast, hrest, List.drop_succ_cons, List.drop_zero, List.reverse_reverse,
    String.ofList_toList]

theorem isDotted_append (start s : String) : isDotted (start ++ "." ++ s) = true := by
  simp [isDotted]

/-- A name with more than one part is cut at its last dot. -/
theorem exists_eq_append_of_isDotted {name : String} (h : isDotted name = true) :
    ∃ start last, name = start ++ "." ++ last ∧ '.' ∉ last.toList := by
  have hdot : '.' ∈ name.toList.reverse := by simpa [isDotted] using h
  obtain ⟨last, start, hsplit, hlast⟩ := List.eq_append_cons_of_mem hdot
  refine ⟨String.ofList start.reverse, String.ofList last.reverse, ?_, ?_⟩
  · apply String.toList_injective
    have hname := congrArg List.reverse hsplit
    simpa using hname
  · simpa using hlast

end Text

theorem lastPart_qualifiedName {src : Source} {file : String} {root : Node} {s : Symbol}
    (hs : s ∈ (ofModule src file root).symbols.map (·.2)) (hname : '.' ∉ s.name.toList) :
    Text.lastPart s.qualifiedName = s.name := by
  obtain ⟨e, he, rfl⟩ := List.mem_map.mp hs
  obtain ⟨ds, _, horigins⟩ := originateIn_ofModule src file root
  obtain ⟨d, _, horigin⟩ := exists_of_mem_forall₂ horigins he
  obtain ⟨_, parent, _, _, decorators, name, children, _, hmade⟩ := horigin.made
  have hgiven : e.2.name = name := by
    rw [hmade]
    exact name_definitionSymbol ..
  have hqualified : e.2.qualifiedName = qualify parent name := by
    rw [hmade]
    exact qualifiedName_definitionSymbol ..
  rw [hgiven] at hname
  rw [hqualified, hgiven]
  cases parent with
  | none => exact Text.lastPart_of_not_dotted hname
  | some p => exact Text.lastPart_append hname _

namespace SymbolIndex

/-- No two classes that are found as bases share a qualified name. -/
def BasesTold (index : SymbolIndex) : Prop :=
  ∀ base base' c c', index.baseClass? base = some c → index.baseClass? base' = some c' →
    c.qualifiedName = c'.qualifiedName → c = c'

theorem classes_of_baseClass? {index : SymbolIndex} {base : String} {c : Symbol}
    (h : index.baseClass? base = some c) :
    Text.isIdentifier (baseName base) = true ∧ index.classes.get? (baseName base) = some c := by
  unfold baseClass? at h
  split at h
  · rename_i hidentifier
    exact ⟨hidentifier, h⟩
  · exact absurd h (by simp)

/-- The name of a base has no dots, so that a qualified name tells it. -/
theorem basesTold_ofModule (src : Source) (file : String) (root : Node) :
    (ofSymbols ((ofModule src file root).symbols.map (·.2))).BasesTold := by
  intro base base' c c' hc hc' heq
  obtain ⟨hid, hget⟩ := classes_of_baseClass? hc
  obtain ⟨hid', hget'⟩ := classes_of_baseClass? hc'
  obtain ⟨hmem, _, hname⟩ := mem_of_classes hget
  obtain ⟨hmem', _, hname'⟩ := mem_of_classes hget'
  have hpart := lastPart_qualifiedName hmem (hname ▸ Text.dot_notMem_of_isIdentifier hid)
  have hpart' := lastPart_qualifiedName hmem' (hname' ▸ Text.dot_notMem_of_isIdentifier hid')
  have hsame : baseName base = baseName base' := by
    rw [← hname, ← hname', ← hpart, ← hpart', heq]
  rw [hsame] at hget
  exact Option.some.inj (hget.symm.trans hget')

/-! ## The graph of the bases -/

/-- The class as a search knows it that starts from another one: whatever has the qualified name of the
start is the start. -/
def knownFrom (start c : Symbol) : Symbol :=
  if c.qualifiedName = start.qualifiedName then start else c

/-- The classes to which the bases of a class lead in a search. -/
def basesFrom (index : SymbolIndex) (start c : Symbol) : List Symbol :=
  (index.baseClasses c).map (knownFrom start)

@[simp]
theorem qualifiedName_knownFrom (start c : Symbol) :
    (knownFrom start c).qualifiedName = c.qualifiedName := by
  unfold knownFrom
  split
  · rename_i h
    exact h.symm
  · rfl

theorem knownFrom_of_ne {start c : Symbol} (h : knownFrom start c ≠ start) : knownFrom start c = c := by
  unfold knownFrom at h ⊢
  split
  · rename_i heq
    exact absurd (if_pos heq) h
  · rfl

theorem mem_baseClasses {index : SymbolIndex} {c b : Symbol} :
    b ∈ index.baseClasses c ↔ ∃ base ∈ c.bases, index.baseClass? base = some b :=
  List.mem_filterMap

theorem exists_base {index : SymbolIndex} {c : Symbol} :
    ∀ b ∈ index.baseClasses c, ∃ base, index.baseClass? base = some b := by
  intro b hb
  obtain ⟨base, _, hbase⟩ := mem_baseClasses.mp hb
  exact ⟨base, hbase⟩

theorem mem_basesFrom {index : SymbolIndex} {start c b : Symbol} :
    b ∈ index.basesFrom start c ↔
      ∃ base ∈ c.bases, ∃ found, index.baseClass? base = some found ∧ knownFrom start found = b := by
  simp only [basesFrom, List.mem_map, mem_baseClasses]
  constructor
  · rintro ⟨found, ⟨base, hbase, hfound⟩, rfl⟩
    exact ⟨base, hbase, found, hfound, rfl⟩
  · rintro ⟨base, hbase, found, hfound, rfl⟩
    exact ⟨found, ⟨base, hbase, hfound⟩, rfl⟩

/-- What is reached from the start without coming back to it is reached along the bases as they are. -/
theorem reached_of_basesFrom {index : SymbolIndex} {start c : Symbol}
    (h : Relation.TransGen (fun a b => b ∈ index.basesFrom start a) start c) (hne : c ≠ start) :
    Relation.TransGen (fun a b => b ∈ index.baseClasses a) start c := by
  induction h with
  | single hstep =>
      obtain ⟨found, hfound, rfl⟩ := List.mem_map.mp hstep
      rw [knownFrom_of_ne hne]
      exact .single hfound
  | @tail b c _ hstep ih =>
      obtain ⟨found, hfound, rfl⟩ := List.mem_map.mp hstep
      rw [knownFrom_of_ne hne]
      by_cases hb : b = start
      · subst hb
        exact .single hfound
      · exact .tail (ih hb) hfound

/-! ## What a search visits -/

/-- The names that are left once some classes were met. -/
def leftBy (met : List Symbol) (unvisited : List String) : List String :=
  unvisited.filter fun q => decide (q ∉ met.map (·.qualifiedName))

theorem leftBy_nil (unvisited : List String) : leftBy [] unvisited = unvisited := by
  simp [leftBy]

theorem without_eq_leftBy (c : Symbol) (unvisited : List String) :
    without c.qualifiedName unvisited = leftBy [c] unvisited := by
  refine List.filter_congr fun q _ => ?_
  by_cases hq : q = c.qualifiedName <;> simp [hq]

theorem leftBy_leftBy (met more : List Symbol) (unvisited : List String) :
    leftBy more (leftBy met unvisited) = leftBy (met ++ more) unvisited := by
  rw [leftBy, leftBy, leftBy, List.filter_filter]
  refine List.filter_congr fun q _ => ?_
  rw [List.map_append]
  by_cases hmet : q ∈ met.map (·.qualifiedName) <;> simp [hmet]

/-- The names that are left are those of the classes that were not seen. -/
structure Tracks (index : SymbolIndex) (start : Symbol) (unvisited : List String)
    (seen : List Symbol) : Prop where
  start_mem : start ∈ seen
  mem_iff : ∀ base c, index.baseClass? base = some c →
    (c.qualifiedName ∈ unvisited ↔ knownFrom start c ∉ seen)

/-- A class that some base leads to. -/
def IsBase (index : SymbolIndex) (start c : Symbol) : Prop :=
  ∃ base found, index.baseClass? base = some found ∧ knownFrom start found = c

theorem isBase_of_mem_basesFrom {index : SymbolIndex} {start c b : Symbol}
    (h : b ∈ index.basesFrom start c) : index.IsBase start b := by
  obtain ⟨base, _, found, hfound, rfl⟩ := mem_basesFrom.mp h
  exact ⟨base, found, hfound, rfl⟩

theorem Tracks.append {index : SymbolIndex} {start : Symbol} {unvisited : List String}
    {seen : List Symbol} (htold : index.BasesTold) (h : index.Tracks start unvisited seen)
    (met : List Symbol) (hmet : ∀ c ∈ met, index.IsBase start c) :
    index.Tracks start (leftBy met unvisited) (met ++ seen) where
  start_mem := List.mem_append_right _ h.start_mem
  mem_iff := by
    intro base c hc
    have hname : c.qualifiedName ∈ met.map (·.qualifiedName) ↔ knownFrom start c ∈ met := by
      constructor
      · intro hmem
        obtain ⟨b, hb, heq⟩ := List.mem_map.mp hmem
        obtain ⟨base', found, hfound, rfl⟩ := hmet b hb
        rw [qualifiedName_knownFrom] at heq
        rwa [htold base base' c found hc hfound heq.symm]
      · intro hmem
        exact List.mem_map.mpr ⟨_, hmem, qualifiedName_knownFrom start c⟩
    rw [leftBy, List.mem_filter, decide_eq_true_eq, hname, h.mem_iff base c hc, List.mem_append,
      not_or, and_comm]

theorem searchMethod_of_visited {index : SymbolIndex} {name : String} {unvisited : List String}
    {c : Symbol} (h : c.qualifiedName ∉ unvisited) (counts : Bool) (waiting : List (Symbol × Bool)) :
    index.searchMethod name unvisited ((c, counts) :: waiting) =
      index.searchMethod name unvisited waiting := by
  rw [searchMethod, dif_neg h]

theorem searchMethod_of_new {index : SymbolIndex} {name : String} {unvisited : List String}
    {c : Symbol} (h : c.qualifiedName ∈ unvisited) (counts : Bool) (waiting : List (Symbol × Bool)) :
    index.searchMethod name unvisited ((c, counts) :: waiting) =
      (if counts then index.ownMethod? c name else none).or
        (index.searchMethod name (leftBy [c] unvisited)
          ((index.baseClasses c).map (·, true) ++ waiting)) := by
  rw [searchMethod, dif_pos h, without_eq_leftBy]
  cases (if counts then index.ownMethod? c name else none) with
  | some method => rfl
  | none => rfl

/-- A search asks the classes that it meets, in depth-first order, and goes on with the rest. -/
theorem searchMethod_of_depthFirst {index : SymbolIndex} (htold : index.BasesTold) {start : Symbol}
    {seen waiting order : List Symbol} (h : DepthFirst (index.basesFrom start) seen waiting order)
    (name : String) {unvisited : List String} {classes : List Symbol} (rest : List (Symbol × Bool))
    (htracks : index.Tracks start unvisited seen) (hclasses : classes.map (knownFrom start) = waiting)
    (hfound : ∀ c ∈ classes, ∃ base, index.baseClass? base = some c) :
    index.searchMethod name unvisited (classes.map (·, true) ++ rest) =
      (order.findSome? (index.ownMethod? · name)).or
        (index.searchMethod name (leftBy order unvisited) rest) := by
  induction h generalizing unvisited classes rest with
  | done seen =>
      obtain rfl := List.map_eq_nil_iff.mp hclasses
      rw [leftBy_nil]
      rfl
  | @old seen waiting order a ha _ ih =>
      obtain ⟨c, classes, rfl, rfl, rfl⟩ := List.map_eq_cons_iff.mp hclasses
      obtain ⟨⟨base, hc⟩, hrest⟩ := List.forall_mem_cons.mp hfound
      have hvisited : c.qualifiedName ∉ unvisited := fun hmem => (htracks.mem_iff base c hc).mp hmem ha
      rw [List.map_cons, List.cons_append, searchMethod_of_visited hvisited]
      exact ih rest htracks rfl hrest
  | @new seen waiting below after a ha hbelow hafter ihbelow ihafter =>
      obtain ⟨c, classes, rfl, rfl, rfl⟩ := List.map_eq_cons_iff.mp hclasses
      obtain ⟨⟨base, hc⟩, hrest⟩ := List.forall_mem_cons.mp hfound
      have hnew : c.qualifiedName ∈ unvisited := (htracks.mem_iff base c hc).mpr ha
      -- The start was seen, so that a new class is known as what it is.
      have hself : knownFrom start c = c :=
        knownFrom_of_ne fun heq => ha (by rw [heq]; exact htracks.start_mem)
      rw [hself] at ha hbelow hafter ihbelow ihafter ⊢
      have htracks' : index.Tracks start (leftBy [c] unvisited) (c :: seen) :=
        htracks.append htold [c] (by simpa using ⟨base, c, hc, hself⟩)
      have hbelowBase : ∀ b ∈ below, index.IsBase start b := by
        refine hbelow.forall_mem (P := index.IsBase start) ?_ ?_
        · exact fun b hb => isBase_of_mem_basesFrom hb
        · exact fun a b hb => isBase_of_mem_basesFrom hb
      have htracks'' := htracks'.append htold below hbelowBase
      rw [List.map_cons, List.cons_append, searchMethod_of_new hnew, if_pos rfl,
        ihbelow _ htracks' rfl exists_base, ihafter rest htracks'' rfl hrest, leftBy_leftBy, leftBy_leftBy,
        List.findSome?_cons, List.findSome?_append]
      cases index.ownMethod? c name with
      | some method => rfl
      | none => simp [Option.or_assoc]

/-! ## What a search finds -/

section Found

variable {symbols : List Symbol} {cls c m : Symbol} {name : String} {counts : Bool}
variable {order : List Symbol}

theorem mem_keys {s : Symbol} (hs : s ∈ symbols) :
    s.qualifiedName ∈ (ofSymbols symbols).byName.keys := by
  obtain ⟨t, ht⟩ := exists_get? hs
  exact List.mem_map.mpr ⟨_, Dictionary.mem_entries_of_get? ht, rfl⟩

/-- Once the start was met, the names of all other classes are left. -/
theorem tracks_start (symbols : List Symbol) (start : Symbol) :
    (ofSymbols symbols).Tracks start
      (leftBy [start] (start.qualifiedName :: (ofSymbols symbols).byName.keys)) [start] where
  start_mem := List.mem_cons_self
  mem_iff := by
    intro base c hc
    have hkey := mem_keys (mem_of_classes (classes_of_baseClass? hc).2).1
    have hstart : knownFrom start c = start ↔ c.qualifiedName = start.qualifiedName := by
      constructor
      · intro heq
        rw [← heq, qualifiedName_knownFrom]
      · exact fun heq => if_pos heq
    simp [leftBy, hkey, hstart]

/-- A method is looked for in the classes that are met, in depth-first order. -/
theorem findMethod?_eq (htold : (ofSymbols symbols).BasesTold)
    (h : DepthFirst ((ofSymbols symbols).basesFrom cls) [] [cls] order) :
    (ofSymbols symbols).findMethod? cls name counts =
      (if counts then order else order.tail).findSome? ((ofSymbols symbols).ownMethod? · name) := by
  obtain ⟨below, rfl, hbelow⟩ := h.of_singleton
  have hsearch :=
    searchMethod_of_depthFirst htold hbelow name [] (tracks_start symbols cls) rfl exists_base
  rw [findMethod?, searchMethod_of_new List.mem_cons_self, hsearch, searchMethod, Option.or_none]
  cases counts with
  | false => rfl
  | true =>
      rw [if_pos rfl, if_pos rfl, List.findSome?_cons]
      cases (ofSymbols symbols).ownMethod? cls name <;> rfl

/-- A class is searched if the start leads to it; the start itself only if it counts. -/
def IsSearched (index : SymbolIndex) (start : Symbol) (counts : Bool) (c : Symbol) : Prop :=
  (c = start ∧ counts = true) ∨
    (c ≠ start ∧ Relation.TransGen (fun a b => b ∈ index.basesFrom start a) start c)

theorem mem_searched_iff {index : SymbolIndex} (h : DepthFirst (index.basesFrom cls) [] [cls] order) :
    c ∈ (if counts then order else order.tail) ↔ index.IsSearched cls counts c := by
  obtain ⟨below, rfl, _⟩ := h.of_singleton
  have hnotMem : cls ∉ below := (List.nodup_cons.mp h.nodup.1).1
  have hreached : c ∈ cls :: below ↔
      c = cls ∨ Relation.TransGen (fun a b => b ∈ index.basesFrom cls a) cls c := by
    rw [h.mem_iff, ← Relation.reflTransGen_iff_eq_or_transGen]
    simp
  have hbelow : c ∈ below ↔
      c ≠ cls ∧ Relation.TransGen (fun a b => b ∈ index.basesFrom cls a) cls c := by
    constructor
    · intro hc
      have hne : c ≠ cls := fun heq => hnotMem (heq ▸ hc)
      exact ⟨hne, (hreached.mp (List.mem_cons_of_mem _ hc)).resolve_left hne⟩
    · rintro ⟨hne, hc⟩
      exact (List.mem_cons.mp (hreached.mpr (Or.inr hc))).resolve_left hne
  unfold IsSearched
  rw [← hbelow]
  cases counts <;> simp

/-- The last definition of a name under a qualified name is the method. -/
def IsLastMethod (symbols : List Symbol) (owner name : String) (m : Symbol) : Prop :=
  IsLastIn symbols (some owner) name m ∧ m.kind = .method

theorem ownMethod?_eq_some_iff :
    (ofSymbols symbols).ownMethod? c name = some m ↔
      IsLastMethod symbols c.qualifiedName name m := by
  rw [ownMethod?, Option.filter_eq_some_iff, child?_eq_some_iff, decide_eq_true_eq, IsLastMethod]

theorem ownMethod?_eq_none_iff :
    (ofSymbols symbols).ownMethod? c name = none ↔
      ∀ m, ¬ IsLastMethod symbols c.qualifiedName name m := by
  simp only [← ownMethod?_eq_some_iff, Option.eq_none_iff_forall_ne_some, ne_eq]

theorem IsLastMethod.spec {owner : String} (h : IsLastMethod symbols owner name m) :
    m ∈ symbols ∧ m.kind = .method ∧ m.name = name ∧ m.parent = some owner := by
  obtain ⟨hmem, hparent, hname⟩ := h.1.spec
  exact ⟨hmem, h.2, hname, hparent⟩

theorem exists_depthFirst (symbols : List Symbol) (cls : Symbol) :
    ∃ order, DepthFirst ((ofSymbols symbols).basesFrom cls) [] [cls] order := by
  refine DepthFirst.exists_order (cls :: symbols) ?_ [] [cls] (by simp)
  intro a _ b hb
  obtain ⟨base, _, found, hfound, rfl⟩ := mem_basesFrom.mp hb
  have hmem := (mem_of_classes (classes_of_baseClass? hfound).2).1
  by_cases hknown : knownFrom cls found = cls
  · rw [hknown]
    exact List.mem_cons_self
  · rw [knownFrom_of_ne hknown]
    exact List.mem_cons_of_mem _ hmem

/-- What is found is the method of the first class, among those that are searched, that has one. -/
theorem findMethod?_eq_some_iff (htold : (ofSymbols symbols).BasesTold)
    (h : DepthFirst ((ofSymbols symbols).basesFrom cls) [] [cls] order) :
    (ofSymbols symbols).findMethod? cls name counts = some m ↔
      ∃ before c after, order = before ++ c :: after ∧
        (ofSymbols symbols).IsSearched cls counts c ∧
        IsLastMethod symbols c.qualifiedName name m ∧
        ∀ b ∈ before, (ofSymbols symbols).IsSearched cls counts b →
          ∀ m', ¬ IsLastMethod symbols b.qualifiedName name m' := by
  have hsearched : ∀ c, c ∈ (if counts then order else order.tail) ↔
      (ofSymbols symbols).IsSearched cls counts c := fun c => mem_searched_iff h
  obtain ⟨below, rfl, _⟩ := h.of_singleton
  rw [findMethod?_eq htold h, List.findSome?_eq_some_iff]
  simp only [ownMethod?_eq_some_iff, ownMethod?_eq_none_iff, ← hsearched]
  cases counts with
  | true =>
      simp only [if_true]
      constructor
      · rintro ⟨before, c, after, heq, hc, hbefore⟩
        exact ⟨before, c, after, heq, by simp [heq], hc, fun b hb _ => hbefore b hb⟩
      · rintro ⟨before, c, after, heq, _, hc, hbefore⟩
        exact ⟨before, c, after, heq, hc, fun b hb => hbefore b hb (by simp [heq, hb])⟩
  | false =>
      simp only [Bool.false_eq_true, if_false, List.tail_cons]
      have hcls : cls ∉ below := (List.nodup_cons.mp h.nodup.1).1
      constructor
      · rintro ⟨before, c, after, rfl, hc, hbefore⟩
        refine ⟨cls :: before, c, after, rfl, by simp, hc, ?_⟩
        intro b hb hmem
        rcases List.mem_cons.mp hb with rfl | hb
        · exact absurd hmem hcls
        · exact hbefore b hb
      · -- The start is not searched, so that it is the first of those before the class.
        rintro ⟨before, c, after, heq, hmem, hc, hbefore⟩
        cases before with
        | nil =>
            obtain ⟨rfl, -⟩ := List.cons.inj heq
            exact absurd hmem hcls
        | cons a before =>
            obtain ⟨rfl, rfl⟩ := List.cons.inj heq
            exact ⟨before, c, after, rfl, hc, fun b hb =>
              hbefore b (List.mem_cons_of_mem _ hb) (List.mem_append_left _ hb)⟩

theorem findMethod?_eq_none_iff (htold : (ofSymbols symbols).BasesTold) :
    (ofSymbols symbols).findMethod? cls name counts = none ↔
      ∀ c, (ofSymbols symbols).IsSearched cls counts c →
        ∀ m, ¬ IsLastMethod symbols c.qualifiedName name m := by
  obtain ⟨order, h⟩ := exists_depthFirst symbols cls
  rw [findMethod?_eq htold h, List.findSome?_eq_none_iff]
  simp only [ownMethod?_eq_none_iff, mem_searched_iff h]

end Found

end SymbolIndex

/-- The search for a method in a class and its bases is a depth-first search of the graph of the bases.
The visit of the graph comes to an end, in one order only, also where bases lead back. What is found is a
method of that name of the class itself, if it counts, or of a class that its bases lead to. Nothing is
found exactly if none of these classes has the method as its last definition of the name; else the first
one in the order that has it counts. -/
theorem method_found_depth_first (src : Source) (file : String) (root : Node) (cls : Symbol)
    (name : String) (counts : Bool) :
    let symbols := (ofModule src file root).symbols.map (·.2)
    let index := SymbolIndex.ofSymbols symbols
    (∃! order, DepthFirst (index.basesFrom cls) [] [cls] order) ∧
    (∀ m, index.findMethod? cls name counts = some m →
      m ∈ symbols ∧ m.kind = .method ∧ m.name = name ∧
        ((counts = true ∧ m.parent = some cls.qualifiedName) ∨
          ∃ c, Relation.TransGen (fun a b => b ∈ index.baseClasses a) cls c ∧
            m.parent = some c.qualifiedName)) ∧
    (index.findMethod? cls name counts = none ↔
      ∀ c, index.IsSearched cls counts c →
        ∀ m, ¬ SymbolIndex.IsLastMethod symbols c.qualifiedName name m) ∧
    ∀ order, DepthFirst (index.basesFrom cls) [] [cls] order →
      ∀ m, index.findMethod? cls name counts = some m ↔
        ∃ before c after, order = before ++ c :: after ∧ index.IsSearched cls counts c ∧
          SymbolIndex.IsLastMethod symbols c.qualifiedName name m ∧
          ∀ b ∈ before, index.IsSearched cls counts b →
            ∀ m', ¬ SymbolIndex.IsLastMethod symbols b.qualifiedName name m' := by
  intro symbols index
  have htold := SymbolIndex.basesTold_ofModule src file root
  obtain ⟨order, horder⟩ := SymbolIndex.exists_depthFirst symbols cls
  refine ⟨⟨order, horder, fun _ h => h.unique horder⟩, ?_, SymbolIndex.findMethod?_eq_none_iff htold,
    fun _ h m => SymbolIndex.findMethod?_eq_some_iff htold h⟩
  intro m hm
  obtain ⟨_, c, _, _, hsearched, hmethod, _⟩ :=
    (SymbolIndex.findMethod?_eq_some_iff htold horder).mp hm
  obtain ⟨hmem, hkind, hname, hparent⟩ := hmethod.spec
  refine ⟨hmem, hkind, hname, ?_⟩
  rcases hsearched with ⟨rfl, hcounts⟩ | ⟨hne, hreached⟩
  · exact Or.inl ⟨hcounts, hparent⟩
  · exact Or.inr ⟨c, SymbolIndex.reached_of_basesFrom hreached hne, hparent⟩

end SourceFacts
