import SourceFacts.Proofs.Dictionary
import SourceFacts.Protocol
import SourceFacts.Symbol.Index

/-!
# What the tables find

Each table answers with a symbol of the list it was made from: the last one with a qualified name, the
last one with a name in a parent. The chain of scopes ends where no parent is left, never before.
-/

namespace SourceFacts.SymbolIndex

/-! ## By qualified name -/

theorem byName_foldl_prefer (symbols : List Symbol) (index : SymbolIndex) :
    (symbols.foldl prefer index).byName = index.byName := by
  induction symbols generalizing index with
  | nil => rfl
  | cons s rest ih =>
      rw [List.foldl_cons, ih, prefer]
      split <;> rfl

theorem byName_foldl_add (symbols : List Symbol) :
    (symbols.foldl add {}).byName = Dictionary.ofList (symbols.map fun s => (s.qualifiedName, s)) := by
  induction symbols using List.reverseRecOn with
  | nil => rfl
  | append_singleton l s ih =>
      rw [List.foldl_append, List.map_append]
      simp only [List.foldl_cons, List.foldl_nil, List.map_cons, List.map_nil]
      rw [Dictionary.ofList_concat, ← ih]
      rfl

theorem byName_ofSymbols (symbols : List Symbol) :
    (ofSymbols symbols).byName = Dictionary.ofList (symbols.map fun s => (s.qualifiedName, s)) := by
  rw [ofSymbols, byName_foldl_prefer, byName_foldl_add]

/-- A qualified name stands for the last symbol that has it. -/
theorem get?_ofSymbols (symbols : List Symbol) (name : String) :
    (ofSymbols symbols).get? (some name) =
      (symbols.filter fun s => decide (s.qualifiedName = name)).getLast? := by
  rw [get?, Option.bind_some, byName_ofSymbols, Dictionary.get?_ofList, List.filter_map,
    List.getLast?_map, Option.map_map]
  exact Option.map_id'

theorem mem_of_get? {symbols : List Symbol} {name : Option String} {s : Symbol}
    (h : (ofSymbols symbols).get? name = some s) :
    s ∈ symbols ∧ name = some s.qualifiedName := by
  obtain ⟨q, rfl, hq⟩ := Option.bind_eq_some_iff.mp h
  change (ofSymbols symbols).get? (some q) = some s at h
  rw [get?_ofSymbols] at h
  obtain ⟨hmem, hname⟩ := List.mem_filter.mp (List.mem_of_getLast? h)
  exact ⟨hmem, congrArg some (of_decide_eq_true hname).symm⟩

theorem exists_get? {symbols : List Symbol} {s : Symbol} (hs : s ∈ symbols) :
    ∃ t, (ofSymbols symbols).get? (some s.qualifiedName) = some t := by
  rw [get?_ofSymbols]
  have hmem : s ∈ symbols.filter fun t => decide (t.qualifiedName = s.qualifiedName) :=
    List.mem_filter.mpr ⟨hs, decide_eq_true rfl⟩
  exact ⟨_, List.getLast?_eq_some_getLast (List.ne_nil_of_mem hmem)⟩

theorem mem_of_mem_values {symbols : List Symbol} {s : Symbol}
    (h : s ∈ (ofSymbols symbols).byName.values) : s ∈ symbols := by
  rw [byName_ofSymbols] at h
  obtain ⟨e, he, rfl⟩ := List.mem_map.mp h
  obtain ⟨t, ht, rfl⟩ := List.mem_map.mp (Dictionary.mem_of_mem_ofList he)
  exact ht

theorem mem_of_mem_allClasses {symbols : List Symbol} {c : Symbol}
    (h : c ∈ (ofSymbols symbols).allClasses) : c ∈ symbols ∧ c.kind = .cls := by
  obtain ⟨hvalue, hkind⟩ := List.mem_filter.mp h
  exact ⟨mem_of_mem_values hvalue, of_decide_eq_true hkind⟩

/-- The classes are those that their qualified names stand for. -/
theorem mem_allClasses_iff {symbols : List Symbol} {c : Symbol} :
    c ∈ (ofSymbols symbols).allClasses ↔
      (ofSymbols symbols).get? (some c.qualifiedName) = some c ∧ c.kind = .cls := by
  rw [allClasses, List.mem_filter, decide_eq_true_iff]
  refine and_congr_left fun _ => ?_
  constructor
  · intro h
    obtain ⟨⟨k, t⟩, he, rfl⟩ := List.mem_map.mp h
    rw [byName_ofSymbols] at he
    obtain ⟨t', _, heq⟩ := List.mem_map.mp (Dictionary.mem_of_mem_ofList he)
    obtain ⟨rfl, rfl⟩ := Prod.mk.inj heq
    rw [get?, Option.bind_some, byName_ofSymbols]
    exact Dictionary.get?_of_mem_entries (Dictionary.nodup_keys_ofList _) he
  · intro h
    rw [get?, Option.bind_some] at h
    exact List.mem_map.mpr ⟨_, Dictionary.mem_entries_of_get? h, rfl⟩

/-- The classes have different qualified names. -/
theorem nodup_allClasses (symbols : List Symbol) :
    ((ofSymbols symbols).allClasses.map (·.qualifiedName)).Nodup := by
  have hnames : ((ofSymbols symbols).byName.values.map (·.qualifiedName)).Nodup := by
    rw [byName_ofSymbols]
    apply Dictionary.nodup_map_values_ofList
    intro e he
    obtain ⟨s, _, rfl⟩ := List.mem_map.mp he
    rfl
  exact hnames.sublist (List.filter_sublist.map _)

/-! ## By parent and name -/

theorem children_foldl_prefer (symbols : List Symbol) (index : SymbolIndex) :
    (symbols.foldl prefer index).children = index.children := by
  induction symbols generalizing index with
  | nil => rfl
  | cons s rest ih =>
      rw [List.foldl_cons, ih, prefer]
      split <;> rfl

theorem child?_add (index : SymbolIndex) (s : Symbol) (parent : Option String) (name : String) :
    (index.add s).child? parent name =
      if s.parent = parent ∧ s.name = name then some s else index.child? parent name := by
  unfold child? add
  simp only [Dictionary.get?_put]
  by_cases hp : s.parent = parent
  · subst hp
    simp only [if_true, true_and, Option.bind_some, Dictionary.get?_put]
    cases index.children.get? s.parent with
    | none => rfl
    | some table => rfl
  · simp only [hp, false_and, if_false]

/-- A name in a parent stands for the last symbol of that name there. -/
theorem child?_ofSymbols (symbols : List Symbol) (parent : Option String) (name : String) :
    (ofSymbols symbols).child? parent name =
      (symbols.filter fun s => decide (s.parent = parent ∧ s.name = name)).getLast? := by
  have hadd : (symbols.foldl add {}).child? parent name =
      (symbols.filter fun s => decide (s.parent = parent ∧ s.name = name)).getLast? := by
    induction symbols using List.reverseRecOn with
    | nil => rfl
    | append_singleton l s ih =>
        rw [List.foldl_append, List.filter_append]
        simp only [List.foldl_cons, List.foldl_nil]
        rw [child?_add, ih]
        by_cases h : s.parent = parent ∧ s.name = name <;> simp [h]
  rw [← hadd, child?, child?, ofSymbols, children_foldl_prefer]

/-- The symbol is the last one of a name in a parent. -/
def IsLastIn (symbols : List Symbol) (parent : Option String) (name : String) (s : Symbol) : Prop :=
  (symbols.filter fun t => decide (t.parent = parent ∧ t.name = name)).getLast? = some s

theorem IsLastIn.spec {symbols : List Symbol} {parent : Option String} {name : String} {s : Symbol}
    (h : IsLastIn symbols parent name s) : s ∈ symbols ∧ s.parent = parent ∧ s.name = name := by
  obtain ⟨hmem, hs⟩ := List.mem_filter.mp (List.mem_of_getLast? h)
  exact ⟨hmem, of_decide_eq_true hs⟩

theorem exists_isLastIn {symbols : List Symbol} {s : Symbol} (hs : s ∈ symbols) :
    ∃ t, IsLastIn symbols s.parent s.name t := by
  have hmem : s ∈ symbols.filter fun t => decide (t.parent = s.parent ∧ t.name = s.name) :=
    List.mem_filter.mpr ⟨hs, decide_eq_true ⟨rfl, rfl⟩⟩
  exact ⟨_, List.getLast?_eq_some_getLast (List.ne_nil_of_mem hmem)⟩

theorem child?_eq_some_iff {symbols : List Symbol} {parent : Option String} {name : String}
    {s : Symbol} :
    (ofSymbols symbols).child? parent name = some s ↔ IsLastIn symbols parent name s := by
  rw [child?_ofSymbols, IsLastIn]

theorem mem_of_child? {symbols : List Symbol} {parent : Option String} {name : String} {s : Symbol}
    (h : (ofSymbols symbols).child? parent name = some s) : s ∈ symbols ∧ s.parent = parent := by
  obtain ⟨hmem, hparent, _⟩ := (child?_eq_some_iff.mp h).spec
  exact ⟨hmem, hparent⟩

/-! ## Classes by name -/

/-- Of several classes of one name the first one is entered. -/
theorem classes_foldl_add (symbols : List Symbol) (name : String) :
    (symbols.foldl add {}).classes.get? name =
      (symbols.filter fun s => decide (s.kind = .cls ∧ s.name = name)).head? := by
  induction symbols using List.reverseRecOn with
  | nil => rfl
  | append_singleton l s ih =>
      rw [List.foldl_append, List.filter_append, List.head?_append, ← ih]
      simp only [List.foldl_cons, List.foldl_nil, add]
      by_cases hkind : s.kind = .cls
      · rw [if_pos hkind, Dictionary.get?_putNew]
        by_cases hname : s.name = name <;> simp [hkind, hname]
      · simp [hkind]

theorem classes_foldl_prefer (symbols : List Symbol) (index : SymbolIndex) (name : String) :
    (symbols.foldl prefer index).classes.get? name =
      ((symbols.filter fun s =>
        decide (s.kind = .cls ∧ s.parent = none ∧ s.name = name)).getLast?).or
          (index.classes.get? name) := by
  induction symbols using List.reverseRecOn with
  | nil => rfl
  | append_singleton l s ih =>
      rw [List.foldl_append, List.filter_append]
      simp only [List.foldl_cons, List.foldl_nil, prefer]
      by_cases htop : s.kind = .cls ∧ s.parent = none
      · rw [if_pos htop, Dictionary.get?_put, ih]
        by_cases hname : s.name = name <;> simp [htop, hname]
      · rw [if_neg htop, ih]
        have hnot : ¬ (s.kind = .cls ∧ s.parent = none ∧ s.name = name) :=
          fun h => htop ⟨h.1, h.2.1⟩
        simp [hnot]

/-- The name of a class stands for the last class of that name in the module, else for the first class of
that name anywhere. -/
theorem classes_ofSymbols (symbols : List Symbol) (name : String) :
    (ofSymbols symbols).classes.get? name =
      ((symbols.filter fun s =>
        decide (s.kind = .cls ∧ s.parent = none ∧ s.name = name)).getLast?).or
          (symbols.filter fun s => decide (s.kind = .cls ∧ s.name = name)).head? := by
  rw [ofSymbols, classes_foldl_prefer, classes_foldl_add]

theorem mem_of_classes {symbols : List Symbol} {name : String} {c : Symbol}
    (h : (ofSymbols symbols).classes.get? name = some c) :
    c ∈ symbols ∧ c.kind = .cls ∧ c.name = name := by
  rw [classes_ofSymbols] at h
  rcases Option.or_eq_some_iff.mp h with hlast | ⟨_, hfirst⟩
  · obtain ⟨hmem, hc⟩ := List.mem_filter.mp (List.mem_of_getLast? hlast)
    obtain ⟨hkind, _, hname⟩ := of_decide_eq_true hc
    exact ⟨hmem, hkind, hname⟩
  · obtain ⟨hmem, hc⟩ := List.mem_filter.mp (List.mem_of_head? hfirst)
    exact ⟨hmem, of_decide_eq_true hc⟩

/-! ## Methods -/

/-- The table of a parent is made from the symbols in it, one after the other. -/
theorem children_ofSymbols (symbols : List Symbol) (parent : Option String) :
    ((ofSymbols symbols).children.get? parent).getD {} =
      Dictionary.ofList ((symbols.filter fun s => decide (s.parent = parent)).map
        fun s => (s.name, s)) := by
  rw [ofSymbols, children_foldl_prefer]
  induction symbols using List.reverseRecOn with
  | nil => rfl
  | append_singleton l s ih =>
      rw [List.foldl_append, List.filter_append, List.map_append]
      simp only [List.foldl_cons, List.foldl_nil, add, Dictionary.get?_put]
      by_cases hparent : s.parent = parent
      · rw [if_pos hparent, hparent, ih, List.filter_cons_of_pos (by simpa using hparent)]
        rw [List.filter_nil, List.map_singleton, Dictionary.ofList_concat, Option.getD_some]
      · rw [if_neg hparent, ih, List.filter_cons_of_neg (by simpa using hparent)]
        simp

theorem child?_eq_get? (index : SymbolIndex) (parent : Option String) (name : String) :
    index.child? parent name = ((index.children.get? parent).getD {}).get? name := by
  rw [child?]
  cases index.children.get? parent <;> rfl

theorem mem_methodsOf_iff {symbols : List Symbol} {cls m : Symbol} :
    m ∈ (ofSymbols symbols).methodsOf cls ↔
      IsLastIn symbols (some cls.qualifiedName) m.name m ∧ m.kind = .method := by
  rw [methodsOf, List.mem_filter, decide_eq_true_iff, ← child?_eq_some_iff, children_ofSymbols]
  refine and_congr_left fun _ => ?_
  rw [child?_eq_get?, children_ofSymbols]
  constructor
  · intro h
    obtain ⟨⟨k, t⟩, he, rfl⟩ := List.mem_map.mp h
    obtain ⟨t', _, heq⟩ := List.mem_map.mp (Dictionary.mem_of_mem_ofList he)
    obtain ⟨rfl, rfl⟩ := Prod.mk.inj heq
    exact Dictionary.get?_of_mem_entries (Dictionary.nodup_keys_ofList _) he
  · exact fun h => List.mem_map.mpr ⟨_, Dictionary.mem_entries_of_get? h, rfl⟩

/-- The methods of a class have different names. -/
theorem nodup_methodsOf (symbols : List Symbol) (cls : Symbol) :
    (((ofSymbols symbols).methodsOf cls).map (·.name)).Nodup := by
  have hnames : ((((ofSymbols symbols).children.get? (some cls.qualifiedName)).getD {}).values.map
      (·.name)).Nodup := by
    rw [children_ofSymbols]
    apply Dictionary.nodup_map_values_ofList
    intro e he
    obtain ⟨s, _, rfl⟩ := List.mem_map.mp he
    rfl
  exact hnames.sublist (List.filter_sublist.map _)

theorem mem_of_searchMethod {symbols : List Symbol} {name : String} (unvisited : List String)
    (waiting : List (Symbol × Bool)) {m : Symbol}
    (h : (ofSymbols symbols).searchMethod name unvisited waiting = some m) :
    m ∈ symbols ∧ m.kind = .method := by
  fun_induction searchMethod with
  | case1 => exact absurd h (by simp)
  | case2 unvisited cls counts waiting hcls method hfound =>
      cases Option.some.inj h
      split at hfound
      · obtain ⟨hchild, hkind⟩ := Option.filter_eq_some_iff.mp hfound
        exact ⟨(mem_of_child? hchild).1, of_decide_eq_true hkind⟩
      · exact absurd hfound (by simp)
  | case3 unvisited cls counts waiting hcls hnone ih => exact ih h
  | case4 unvisited cls counts waiting hcls ih => exact ih h

theorem mem_of_findMethod? {symbols : List Symbol} {cls m : Symbol} {name : String} {counts : Bool}
    (h : (ofSymbols symbols).findMethod? cls name counts = some m) :
    m ∈ symbols ∧ m.kind = .method :=
  mem_of_searchMethod _ _ h

/-! ## Chains of scopes -/

/-- The name of a parent is shorter than the names inside it. -/
def Nests (s : Symbol) : Prop :=
  ∀ p, s.parent = some p → p.length < s.qualifiedName.length

/-- How many of the qualified names are shorter than a bound. -/
def shorterNames (index : SymbolIndex) (bound : Nat) : Nat :=
  (index.byName.keys.filter fun q => decide (q.length < bound)).length

theorem shorterNames_lt {index : SymbolIndex} {q : String} {bound : Nat}
    (hq : q ∈ index.byName.keys) (hlt : q.length < bound) :
    index.shorterNames q.length < index.shorterNames bound := by
  -- The names shorter than `q` are among those below the bound, and `q` is one that is left out.
  have hfilter : (index.byName.keys.filter fun k => decide (k.length < bound)).filter
      (fun k => decide (k.length < q.length)) =
        index.byName.keys.filter fun k => decide (k.length < q.length) := by
    rw [List.filter_filter]
    refine List.filter_congr fun k _ => ?_
    rw [Bool.and_eq_left_iff_imp]
    intro hk
    have := of_decide_eq_true hk
    exact decide_eq_true (by omega)
  unfold shorterNames
  rw [← hfilter, List.length_filter_lt_length_iff_exists]
  exact ⟨q, List.mem_filter.mpr ⟨hq, decide_eq_true hlt⟩, by simp⟩

theorem shorterNames_le (index : SymbolIndex) (bound : Nat) :
    index.shorterNames bound ≤ index.byName.entries.length := by
  unfold shorterNames Dictionary.keys
  exact Nat.le_trans (List.length_filter_le _ _) (Nat.le_of_eq (List.length_map _))

theorem shorterNames_parent_lt {symbols : List Symbol} {s t : Symbol} (hs : Nests s)
    (ht : (ofSymbols symbols).get? s.parent = some t) :
    (ofSymbols symbols).shorterNames t.qualifiedName.length <
      (ofSymbols symbols).shorterNames s.qualifiedName.length := by
  obtain ⟨_, hparent⟩ := mem_of_get? ht
  refine shorterNames_lt ?_ (hs _ hparent)
  rw [hparent] at ht
  exact List.mem_map.mpr ⟨_, Dictionary.mem_entries_of_get? ht, rfl⟩

@[simp]
theorem chainFrom_none (index : SymbolIndex) (steps : Nat) : index.chainFrom steps none = [] := by
  cases steps <;> rfl

/-- Beyond the number of shorter names, more steps find nothing more. -/
theorem chainFrom_stable {symbols : List Symbol} (hnests : ∀ s ∈ symbols, Nests s) {s : Symbol}
    (hs : Nests s) {m n : Nat} (hm : (ofSymbols symbols).shorterNames s.qualifiedName.length < m)
    (hn : (ofSymbols symbols).shorterNames s.qualifiedName.length < n) :
    (ofSymbols symbols).chainFrom m (some s) = (ofSymbols symbols).chainFrom n (some s) := by
  induction m generalizing s n with
  | zero => exact absurd hm (Nat.not_lt_zero _)
  | succ m ih =>
      cases n with
      | zero => exact absurd hn (Nat.not_lt_zero _)
      | succ n =>
          rw [chainFrom, chainFrom]
          cases ht : (ofSymbols symbols).get? s.parent with
          | none => rw [chainFrom_none, chainFrom_none]
          | some t =>
              -- Both counts of steps fall by one, and so does, at least, the number of shorter names.
              have hlt := shorterNames_parent_lt hs ht
              exact congrArg (s :: ·)
                (ih (hnests t (mem_of_get? ht).1) (by omega) (by omega))

/-- The chain of a scope is the scope with the chain of its parent. -/
theorem scopeChain_some {symbols : List Symbol} (hnests : ∀ s ∈ symbols, Nests s) {s : Symbol}
    (hs : Nests s) :
    (ofSymbols symbols).scopeChain (some s) =
      s :: (ofSymbols symbols).scopeChain ((ofSymbols symbols).get? s.parent) := by
  have hle := (ofSymbols symbols).shorterNames_le s.qualifiedName.length
  unfold scopeChain
  rw [chainFrom]
  cases ht : (ofSymbols symbols).get? s.parent with
  | none => rw [chainFrom_none, chainFrom_none]
  | some t =>
      have hlt := shorterNames_parent_lt hs ht
      exact congrArg (s :: ·)
        (chainFrom_stable hnests (hnests t (mem_of_get? ht).1) (by omega) (by omega))

@[simp]
theorem scopeChain_none (index : SymbolIndex) : index.scopeChain none = [] :=
  index.chainFrom_none _

/-- The symbols met on the way outward from a scope: each one is found under the name of the parent of
the one before, and the way ends where nothing is found. -/
inductive Outward (index : SymbolIndex) : Option Symbol → List Symbol → Prop where
  | module : Outward index none []
  | inside {s : Symbol} {outer : List Symbol} (h : Outward index (index.get? s.parent) outer) :
      Outward index (some s) (s :: outer)

/-- The chain of a scope is the whole way outward. -/
theorem outward_iff {symbols : List Symbol} (hnests : ∀ s ∈ symbols, Nests s)
    {scope : Option Symbol} (hscope : ∀ s, scope = some s → s ∈ symbols) {chain : List Symbol} :
    (ofSymbols symbols).Outward scope chain ↔ chain = (ofSymbols symbols).scopeChain scope := by
  constructor
  · intro h
    induction h with
    | module => rw [scopeChain_none]
    | @inside s outer _ ih =>
        rw [scopeChain_some hnests (hnests s (hscope s rfl)), ih fun t ht => (mem_of_get? ht).1]
  · intro h
    induction chain generalizing scope with
    | nil =>
        cases scope with
        | none => exact .module
        | some s =>
            rw [scopeChain_some hnests (hnests s (hscope s rfl))] at h
            exact absurd h (by simp)
    | cons s outer ih =>
        cases scope with
        | none => exact absurd h (by simp)
        | some t =>
            rw [scopeChain_some hnests (hnests t (hscope t rfl))] at h
            obtain ⟨rfl, houter⟩ := List.cons.inj h
            exact .inside (ih (fun t ht => (mem_of_get? ht).1) houter)

/-- What is met on the way, the scope itself apart, is what its qualified name stands for. -/
theorem Outward.get?_of_mem {symbols : List Symbol} {scope : Option Symbol} {chain : List Symbol}
    (h : (ofSymbols symbols).Outward scope chain) {t : Symbol} (ht : t ∈ chain) :
    scope = some t ∨ (ofSymbols symbols).get? (some t.qualifiedName) = some t := by
  induction h with
  | module => exact absurd ht List.not_mem_nil
  | inside _ ih =>
      rcases List.mem_cons.mp ht with rfl | ht
      · exact Or.inl rfl
      · refine Or.inr ((ih ht).elim (fun hparent => ?_) id)
        rw [← (mem_of_get? hparent).2]
        exact hparent

end SourceFacts.SymbolIndex
