import Mathlib.Data.List.Nodup
import SourceFacts.Proofs.Import.Binding
import SourceFacts.Proofs.Syntax.Address

/-!
# Who takes an import statement

An import statement is read for the module if it stands outside every definition, and for a function if
the function is the nearest definition above it and the statement stands in its body. So no statement
is read twice, and what a function imports is seen neither by the functions around it nor by the module.
-/

namespace SourceFacts

/-- For whom import statements are read: the module, or the function at an address. -/
inductive ImportOwner where
  | module
  | function (address : List Nat)
deriving DecidableEq

section Taken

variable (root : Node)

def DefinedAt (q : List Nat) : Prop :=
  (root.at? q).any Node.isDefinition = true

instance (q : List Nat) : Decidable (DefinedAt root q) :=
  inferInstanceAs (Decidable (_ = true))

/-- The second address is that of the nearest definition above the first one. -/
def NearestDefinition (a f : List Nat) : Prop :=
  f ∈ a.inits ∧ f ≠ a ∧ DefinedAt root f ∧ ∀ q ∈ a.inits, q ≠ a → DefinedAt root q → q <+: f

instance (a f : List Nat) : Decidable (NearestDefinition root a f) :=
  inferInstanceAs (Decidable (_ ∧ _ ∧ _ ∧ _))

/-- The first address lies in the body of the function at the second one. -/
def InBodyOf (a f : List Nat) : Prop :=
  ∃ n ∈ root.at? f, n.kind = "function_definition" ∧ ∃ b ∈ n.firstAt? "body", f ++ [b.2] <+: a

instance (a f : List Nat) : Decidable (InBodyOf root a f) :=
  inferInstanceAs (Decidable (∃ n ∈ root.at? f, _ ∧ ∃ b ∈ n.firstAt? "body", _))

/-- An import statement at the address is read for the owner. -/
def ImportOwner.Takes : ImportOwner → List Nat → Prop
  | .module, a => ∀ q ∈ a.inits, q ≠ a → ¬ DefinedAt root q
  | .function f, a => NearestDefinition root a f ∧ InBodyOf root a f

instance : (o : ImportOwner) → (a : List Nat) → Decidable (o.Takes root a)
  | .module, a => inferInstanceAs (Decidable (∀ q ∈ a.inits, _))
  | .function f, a => inferInstanceAs (Decidable (NearestDefinition root a f ∧ InBodyOf root a f))

/-- The import statements that are read for an owner. -/
def taken (o : ImportOwner) : List (List Nat × Node) :=
  (root.addressed []).filter fun e => e.2.isImport && decide (o.Takes root e.1)

def functionsAt : List (List Nat × Node) :=
  (root.addressed []).filter fun e => e.2.kind == "function_definition"

def importOwners : List ImportOwner :=
  .module :: (functionsAt root).map fun f => .function f.1

variable {root}

theorem ImportOwner.Takes.unique {o o' : ImportOwner} {a : List Nat} (h : o.Takes root a)
    (h' : o'.Takes root a) : o = o' := by
  cases o with
  | module =>
      cases o' with
      | module => rfl
      | function f =>
          obtain ⟨⟨hf, hne, hdef, _⟩, _⟩ := h'
          exact absurd hdef (h f hf hne)
  | function f =>
      obtain ⟨⟨hf, hne, hdef, hnear⟩, _⟩ := h
      cases o' with
      | module => exact absurd hdef (h' f hf hne)
      | function f' =>
          obtain ⟨⟨hf', hne', hdef', hnear'⟩, _⟩ := h'
          have hle : f <+: f' := hnear' f hf hne hdef
          have hge : f' <+: f := hnear f' hf' hne' hdef'
          rw [hle.eq_of_length_le hge.length_le]

theorem mem_taken_iff {o : ImportOwner} {a : List Nat} {n : Node} :
    (a, n) ∈ taken root o ↔ root.at? a = some n ∧ n.isImport = true ∧ o.Takes root a := by
  rw [taken, List.mem_filter, Node.mem_addressed_nil, Bool.and_eq_true, decide_eq_true_iff]

theorem mem_functionsAt_iff {f : List Nat} {n : Node} :
    (f, n) ∈ functionsAt root ↔ root.at? f = some n ∧ n.kind = "function_definition" := by
  rw [functionsAt, List.mem_filter, Node.mem_addressed_nil, beq_iff_eq]

theorem map_snd_functionsAt (root : Node) : (functionsAt root).map (·.2) = root.functions := by
  rw [functionsAt, Node.functions, ← Node.map_snd_addressed [], List.filter_map]
  rfl

theorem ImportOwner.Takes.mem_importOwners {o : ImportOwner} {a : List Nat} (h : o.Takes root a) :
    o ∈ importOwners root := by
  cases o with
  | module => exact List.mem_cons_self
  | function f =>
      obtain ⟨_, n, hn, hk, _⟩ := h
      have hmem : (f, n) ∈ functionsAt root := mem_functionsAt_iff.mpr ⟨hn, hk⟩
      exact List.mem_cons_of_mem _ (List.mem_map.mpr ⟨_, hmem, rfl⟩)

theorem mem_flatMap_taken_iff {a : List Nat} {n : Node} :
    (a, n) ∈ (importOwners root).flatMap (taken root) ↔
      root.at? a = some n ∧ n.isImport = true ∧ ∃ o : ImportOwner, o.Takes root a := by
  simp only [List.mem_flatMap, mem_taken_iff]
  constructor
  · rintro ⟨o, _, hat, himport, ho⟩
    exact ⟨hat, himport, o, ho⟩
  · rintro ⟨hat, himport, o, ho⟩
    exact ⟨o, ho.mem_importOwners, hat, himport, ho⟩

theorem nodup_importOwners (root : Node) : (importOwners root).Nodup := by
  have haddresses : ((functionsAt root).map (·.1)).Nodup :=
    (Node.nodup_addressed [] root).sublist (List.filter_sublist.map _)
  refine List.nodup_cons.mpr ⟨by simp, ?_⟩
  rw [← Function.comp_def ImportOwner.function, ← List.map_map]
  exact haddresses.map fun f f' heq => ImportOwner.function.inj heq

theorem nodup_flatMap_taken (root : Node) :
    (((importOwners root).flatMap (taken root)).map (·.1)).Nodup := by
  rw [List.map_flatMap, List.nodup_flatMap]
  constructor
  · exact fun o _ => (Node.nodup_addressed [] root).sublist (List.filter_sublist.map _)
  · refine (nodup_importOwners root).imp fun {o o'} hne a ha ha' => hne ?_
    obtain ⟨⟨_, n⟩, hn, rfl⟩ := List.mem_map.mp ha
    obtain ⟨⟨_, n'⟩, hn', rfl⟩ := List.mem_map.mp ha'
    exact (mem_taken_iff.mp hn).2.2.unique (mem_taken_iff.mp hn').2.2

end Taken

/-! ## The two passes -/

section Passes

variable {root : Node}

/-- A walk from a node on reads for an owner if it gets to the statements of the owner. -/
theorem importsWithin_eq_of_takes {region : Node} {p : List Nat} {o : ImportOwner}
    (h : root.at? p = some region)
    (ho : ∀ a, (p <+: a ∧ ∀ q ∈ a.inits, p <+: q → q ≠ p → q ≠ a →
      (root.at? q).any Node.isDefinition = false) ↔ o.Takes root a) :
    region.importsWithin = (taken root o).map (·.2) := by
  rw [Node.importsWithin, Node.walk_eq_filter_of_at? _ h, List.filter_map, List.filter_filter, taken]
  simp only [ho]
  rfl

theorem importsWithin_module (hroot : root.isDefinition = false) :
    root.importsWithin = (taken root .module).map (·.2) := by
  refine importsWithin_eq_of_takes (Node.at?_nil root) fun a => ?_
  constructor
  · rintro ⟨_, h⟩ q hq hne hdef
    by_cases hnil : q = []
    · subst hnil
      simp [DefinedAt, hroot] at hdef
    · exact absurd hdef (by simpa [DefinedAt] using h q hq List.nil_prefix hnil hne)
  · intro h
    refine ⟨List.nil_prefix, fun q hq _ _ hne => ?_⟩
    simpa [DefinedAt] using h q hq hne

theorem importsWithin_body {f : List Nat} {n b : Node} {i : Nat} (hn : root.at? f = some n)
    (hk : n.kind = "function_definition") (hb : n.FirstAt "body" i b)
    (hplain : b.isDefinition = false) :
    b.importsWithin = (taken root (.function f)).map (·.2) := by
  have hbody : root.at? (f ++ [i]) = some b := by
    rw [Node.at?_append, hn, Option.bind_some, Node.at?_cons, hb.1]
    rfl
  have hfirst : n.firstAt? "body" = some (b, i) := Node.firstAt?_eq_some_iff.mpr hb
  have hundefined : ¬ DefinedAt root (f ++ [i]) := by simp [DefinedAt, hbody, hplain]
  have hshort : ∀ q, f ++ [i] <+: q → ¬ q <+: f := by
    intro q hge hle
    have hlength := (hge.trans hle).length_le
    rw [List.length_append, List.length_singleton] at hlength
    omega
  refine importsWithin_eq_of_takes hbody fun a => ?_
  constructor
  · rintro ⟨hinside, hclear⟩
    have hf : f <+: a := (List.prefix_append f [i]).trans hinside
    have hne : f ≠ a := fun heq => hshort a hinside (heq ▸ List.prefix_rfl)
    have hdef : DefinedAt root f := by simp [DefinedAt, hn, Node.isDefinition, hk]
    refine ⟨⟨(List.mem_inits _ _).mpr hf, hne, hdef, fun q hq hqa hdefq => ?_⟩,
      n, hn, hk, _, hfirst, hinside⟩
    have hqi : q ≠ f ++ [i] := fun heq => hundefined (heq ▸ hdefq)
    rcases List.prefix_or_prefix_of_prefix ((List.mem_inits _ _).mp hq) hinside with hle | hge
    · exact (List.prefix_concat_iff.mp hle).resolve_left hqi
    · exact absurd hdefq (Bool.eq_false_iff.mp (hclear q hq hge hqi hqa))
  · rintro ⟨⟨_, _, _, hnear⟩, n', hn', _, b', hb', hinside⟩
    obtain rfl : n = n' := Option.some.inj (hn.symm.trans hn')
    obtain rfl : (b, i) = b' := Option.some.inj (hfirst.symm.trans hb')
    refine ⟨hinside, fun q hq hge _ hqa => ?_⟩
    rw [Bool.eq_false_iff]
    intro hdefq
    exact hshort q hge (hnear q hq hqa hdefq)

theorem taken_of_bodyless {f : List Nat} {n : Node} (hn : root.at? f = some n)
    (hb : n.child? "body" = none) : taken root (.function f) = [] := by
  refine List.filter_eq_nil_iff.mpr fun e _ => ?_
  rw [Bool.and_eq_true, decide_eq_true_iff]
  rintro ⟨_, _, n', hn', _, b, hb', _⟩
  obtain rfl : n = n' := Option.some.inj (hn.symm.trans hn')
  rw [← Node.map_fst_firstAt?, Option.mem_def.mp hb'] at hb
  simp at hb

end Passes

/-! ## What a file imports -/

section LandOnce

variable (src : Source) (file : String) (root : Node)

/-- What the import statements of an owner give. -/
def ownerReadings (o : ImportOwner) : List ImportReading :=
  (taken root o).map fun e => ImportReading.ofStatement src file e.2

/-- What a file imports is what the statements of its owners give, and each statement has at most one
owner. -/
structure ImportsLandOnce : Prop where
  imports : (FileImports.ofTree src file root).imports =
    (ownerReadings src file root .module).flatMap (·.bindings)
  moduleMap : (FileImports.ofTree src file root).moduleMap =
    (ownerReadings src file root .module).foldl ImportMap.take {}
  localMaps : (FileImports.ofTree src file root).localMaps =
    Dictionary.ofList (((functionsAt root).map fun f =>
      (f.2.start, (ownerReadings src file root (.function f.1)).foldl ImportMap.take {})).filter
        fun e => !e.2.isEmpty)
  diagnostics : (FileImports.ofTree src file root).diagnostics =
    ((importOwners root).flatMap (ownerReadings src file root)).flatMap (·.diagnostics)
  /-- No statement is read twice. -/
  once : (((importOwners root).flatMap (taken root)).map (·.1)).Nodup
  /-- The statements that are read are those with an owner. -/
  exactly : ∀ a n, (a, n) ∈ (importOwners root).flatMap (taken root) ↔
    root.at? a = some n ∧ n.isImport = true ∧ ∃ o : ImportOwner, o.Takes root a
  unique : ∀ (a : List Nat) (o o' : ImportOwner), o.Takes root a → o'.Takes root a → o = o'

variable {src file root}

/-- What the statements in the body of a function give, if the body is no definition itself. -/
theorem bodyReadings_eq {f : List Nat} {n : Node} (h : (f, n) ∈ functionsAt root)
    (hbody : ∀ n ∈ root.preorder, n.hasField "body" = true → n.isDefinition = false) :
    ((n.child? "body").map fun b => b.importsWithin.map (ImportReading.ofStatement src file)).getD [] =
      ownerReadings src file root (.function f) := by
  obtain ⟨hn, hk⟩ := mem_functionsAt_iff.mp h
  cases hfirst : n.firstAt? "body" with
  | none =>
      have hb : n.child? "body" = none := by rw [← Node.map_fst_firstAt?, hfirst, Option.map_none]
      rw [hb, ownerReadings, taken_of_bodyless hn hb]
      rfl
  | some found =>
      obtain ⟨b, i⟩ := found
      have hb : n.child? "body" = some b := by rw [← Node.map_fst_firstAt?, hfirst, Option.map_some]
      have hat := Node.firstAt?_eq_some_iff.mp hfirst
      have hmem : b ∈ root.preorder := by
        rw [← Node.map_snd_addressed []]
        refine List.mem_map.mpr ⟨(f ++ [i], b), Node.mem_addressed_nil.mpr ?_, rfl⟩
        rw [Node.at?_append, hn, Option.bind_some, Node.at?_cons, hat.1]
        rfl
      rw [hb, Option.map_some, Option.getD_some,
        importsWithin_body hn hk hat (hbody b hmem hat.2.1), List.map_map]
      rfl

/-- Each import statement lands in exactly one map, that of the module or of a function, or in none. -/
theorem import_statements_land_once (hroot : root.isDefinition = false)
    (hbody : ∀ n ∈ root.preorder, n.hasField "body" = true → n.isDefinition = false) :
    ImportsLandOnce src file root := by
  have htop : root.importsWithin.map (ImportReading.ofStatement src file) =
      ownerReadings src file root .module := by
    rw [importsWithin_module hroot, List.map_map]
    rfl
  have hinner : (root.functions.filterMap (localImports? src file)).flatMap (·.2) =
      (functionsAt root).flatMap fun f => ownerReadings src file root (.function f.1) := by
    rw [List.filterMap_eq_flatMap_toList, List.flatMap_assoc, ← map_snd_functionsAt, List.flatMap_map]
    refine List.flatMap_congr fun f hf => ?_
    rw [← bodyReadings_eq hf hbody, localImports?]
    cases f.2.child? "body" <;> simp
  refine ⟨?_, ?_, ?_, ?_, nodup_flatMap_taken root, fun a n => mem_flatMap_taken_iff,
    fun a o o' h h' => h.unique h'⟩
  · rw [← htop]
    rfl
  · rw [← htop]
    rfl
  · rw [localMaps_ofTree, ← map_snd_functionsAt, List.map_map]
    refine congrArg (fun maps : List (Nat × ImportMap) =>
      Dictionary.ofList (maps.filter fun e => !e.2.isEmpty)) (List.map_congr_left fun f hf => ?_)
    rw [← bodyReadings_eq hf hbody, Function.comp_apply, ownImports]
    cases f.2.child? "body" <;> rfl
  · rw [importOwners, List.flatMap_cons, List.flatMap_map, ← hinner, ← htop]
    rfl

def importOf (start stop : Nat) : Node :=
  .node { kind := "import_statement", start, stop }
    [.node { kind := "dotted_name", start := start + 7, stop, field := some "name" } []]

/-- The tree of a file with an import statement at the top, one in a function, one in a decorated
function in it, and one in a class in it. -/
def nestedImports : Node :=
  .node { kind := "module", start := 0, stop := 70 }
    [importOf 0 8,
     .node { kind := "function_definition", start := 9, stop := 69 }
      [.node { kind := "identifier", start := 13, stop := 14, field := some "name" } [],
       .node { kind := "block", start := 19, stop := 69, field := some "body" }
        [importOf 19 27,
         .node { kind := "decorated_definition", start := 29, stop := 50 }
          [.node { kind := "decorator", start := 29, stop := 31 } [],
           .node { kind := "function_definition", start := 33, stop := 50, field := some "definition" }
            [.node { kind := "identifier", start := 37, stop := 38, field := some "name" } [],
             .node { kind := "block", start := 42, stop := 50, field := some "body" }
              [importOf 42 50]]],
         .node { kind := "class_definition", start := 52, stop := 69 }
          [.node { kind := "identifier", start := 58, stop := 59, field := some "name" } [],
           .node { kind := "block", start := 61, stop := 69, field := some "body" }
            [importOf 61 69]]]]]

theorem import_statements_land_once_nested :
    let src := plainSource "import a\ndef f():\n import b\n @x\n def g(): import c\n class K: import d\n"
    nestedImports.isDefinition = false ∧
    (∀ n ∈ nestedImports.preorder, n.hasField "body" = true → n.isDefinition = false) ∧
    ImportsLandOnce src "m.py" nestedImports ∧
    (importOwners nestedImports).map (fun o => (o, (taken nestedImports o).map (·.1))) =
      [(.module, [[0]]), (.function [1], [[1, 1, 0]]), (.function [1, 1, 1, 1], [[1, 1, 1, 1, 1, 0]])] :=
  ⟨by decide, by decide, import_statements_land_once (by decide) (by decide), by decide +kernel⟩

end LandOnce

end SourceFacts
