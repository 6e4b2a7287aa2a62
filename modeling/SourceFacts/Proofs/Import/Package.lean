import Mathlib.Data.List.TakeWhile
import SourceFacts.Proofs.Import.LastWins
import SourceFacts.Proofs.Order
import SourceFacts.Proofs.Syntax.Path

/-!
# The packages a file imports from

A package can be told from the import statements, or from the bindings that are left when the last one
of a name wins. The two agree on a package of which no module is imported whole or by a relative name,
and none of whose bindings is replaced by one of another package.
-/

namespace SourceFacts

/-! ## The package of a module -/

theorem Text.firstPart_firstPart (s : String) : firstPart (firstPart s) = firstPart s := by
  simp [firstPart, beforeFirst, List.takeWhile_idem]

theorem packageOf_of_firstPart {module package : String} (h : Text.firstPart module = package)
    (hpackage : package ≠ "") : packageOf module = package := by
  -- a leading dot would make the first part empty
  have hstart : module.toList.dropWhile (· == '.') = module.toList := by
    cases hchars : module.toList with
    | nil => rfl
    | cons c cs =>
        refine List.dropWhile_cons_of_neg fun hdot => hpackage ?_
        rw [← h, Text.firstPart, Text.beforeFirst, hchars,
          List.takeWhile_cons_of_neg (by simpa using hdot), String.ofList_nil]
  rw [packageOf, hstart, String.ofList_toList, h]

theorem packageOf_firstPart (module : String) :
    packageOf (Text.firstPart module) = Text.firstPart module := by
  by_cases hempty : Text.firstPart module = ""
  · rw [hempty]
    rfl
  · exact packageOf_of_firstPart (Text.firstPart_firstPart module) hempty

/-! ## Statements -/

/-- The modules that an import statement names. -/
def Node.importedModules (src : Source) (statement : Node) : List String :=
  if statement.kind == "import_statement" then
    (statement.childrenWith "name").map fun n =>
      if n.kind == "aliased_import" then src.textOf (n.child? "name") else src.text n
  else ((statement.child? "module_name").map src.text).toList

/-- The statement imports all names of its module. -/
def Node.importsWhole (statement : Node) : Bool :=
  statement.kind != "import_statement" && statement.hasChild "wildcard_import"

namespace ImportReading

variable {src : Source} {file : String} {statement : Node}

/-- A binding is of a module, or of its package. -/
def OriginatesIn (module : String) (i : Import) : Prop :=
  i.originModule = module ∨ i.originModule = Text.firstPart module

theorem OriginatesIn.packageOf {module package : String} {i : Import} (h : OriginatesIn module i)
    (hmodule : Text.firstPart module = package) (hpackage : package ≠ "") :
    packageOf i.originModule = package := by
  rcases h with h | h
  · rw [h, packageOf_of_firstPart hmodule hpackage]
  · rw [h, packageOf_firstPart, hmodule]

/-- What a name of a plain statement binds is of the module that it names. -/
theorem originatesIn_binding? {line : Coordinate} {n : Node} {i : Import}
    (h : binding? src line none n = some i) :
    OriginatesIn (if n.kind == "aliased_import" then src.textOf (n.child? "name") else src.text n) i := by
  unfold binding? at h
  split at h
  · rename_i halias
    obtain ⟨⟨name, given⟩, hread, rfl⟩ := Option.map_eq_some_iff.mp h
    unfold alias? at hread
    dsimp only at hread
    split at hread
    · exact absurd hread (by simp)
    · cases hread
      exact Or.inl (if_pos halias).symm
  · rename_i halias
    rw [if_neg halias, ← Option.some.inj h]
    exact Or.inr rfl

theorem originModule_binding? {line : Coordinate} {module : String} {n : Node} {i : Import}
    (h : binding? src line (some module) n = some i) : i.originModule = module := by
  unfold binding? at h
  split at h
  · obtain ⟨_, _, rfl⟩ := Option.map_eq_some_iff.mp h
    rfl
  · rw [← Option.some.inj h]

theorem mem_bindings_ofNames {module : Option String} {empty : String} {i : Import} :
    i ∈ (ofNames src file statement module empty).bindings ↔
      ∃ n ∈ statement.childrenWith "name",
        binding? src (some (src.line statement : Int)) module n = some i := by
  simp [ofNames]

/-- Without a diagnostic every name binds something, and there is one. -/
theorem of_diagnostics_ofNames {module : Option String} {empty : String}
    (h : (ofNames src file statement module empty).diagnostics = []) :
    (∀ n ∈ statement.childrenWith "name",
      ∃ i, binding? src (some (src.line statement : Int)) module n = some i) ∧
    (ofNames src file statement module empty).bindings ≠ [] := by
  obtain ⟨hnameless, hnothing⟩ := List.append_eq_nil_iff.mp h
  constructor
  · intro n hn
    rw [List.map_eq_nil_iff, List.filter_eq_nil_iff] at hnameless
    have hread := hnameless _ (List.mem_map_of_mem hn)
    exact Option.ne_none_iff_exists'.mp fun hnone => hread (by rw [hnone]; rfl)
  · intro hempty
    replace hempty := List.isEmpty_iff.mpr hempty
    dsimp only [ofNames] at hempty
    rw [if_pos hempty] at hnothing
    exact absurd hnothing (by simp)

/-- What a statement binds comes from the modules that it names. -/
theorem exists_importedModule {i : Import} (h : i ∈ (ofStatement src file statement).bindings) :
    ∃ module ∈ statement.importedModules src, OriginatesIn module i := by
  unfold ofStatement at h
  split at h
  · exact absurd h List.not_mem_nil
  unfold Node.importedModules
  split at h
  · rename_i hkind
    obtain ⟨n, hn, hbinding⟩ := mem_bindings_ofNames.mp h
    rw [if_pos hkind]
    exact ⟨_, List.mem_map_of_mem hn, originatesIn_binding? hbinding⟩
  · rename_i hkind
    rw [if_neg hkind]
    split at h
    · exact absurd h List.not_mem_nil
    · rename_i moduleNode hmodule
      dsimp only at h
      split at h
      · exact absurd h List.not_mem_nil
      · obtain ⟨n, _, hbinding⟩ := mem_bindings_ofNames.mp h
        rw [hmodule]
        exact ⟨_, List.mem_singleton_self _, Or.inl (originModule_binding? hbinding)⟩

/-- A statement without a diagnostic binds something of each module that it names, if it does not import
all of it. -/
theorem exists_binding (hclean : (ofStatement src file statement).diagnostics = [])
    (hwhole : statement.importsWhole = false) {module : String}
    (h : module ∈ statement.importedModules src) :
    ∃ i ∈ (ofStatement src file statement).bindings, OriginatesIn module i := by
  unfold ofStatement at hclean ⊢
  unfold Node.importedModules at h
  split at hclean
  · exact absurd hclean (by simp)
  rename_i herror
  rw [if_neg herror]
  split at hclean
  · rename_i hkind
    rw [if_pos hkind] at h ⊢
    obtain ⟨n, hn, rfl⟩ := List.mem_map.mp h
    obtain ⟨i, hi⟩ := (of_diagnostics_ofNames hclean).1 n hn
    exact ⟨i, mem_bindings_ofNames.mpr ⟨n, hn, hi⟩, originatesIn_binding? hi⟩
  · rename_i hkind
    rw [if_neg hkind] at h ⊢
    have hnamed : ¬ statement.hasChild "wildcard_import" = true := by
      intro hchild
      rw [Node.importsWhole, hchild, Bool.and_true, bne_eq_false_iff_eq] at hwhole
      exact hkind (beq_iff_eq.mpr hwhole)
    split at hclean
    · exact absurd hclean (by simp)
    · rename_i moduleNode hmodule
      dsimp only at hclean ⊢
      rw [if_neg hnamed] at hclean ⊢
      obtain rfl : module = src.text moduleNode := by simpa [hmodule] using h
      obtain ⟨i, hi⟩ := List.exists_mem_of_ne_nil _ (of_diagnostics_ofNames hclean).2
      obtain ⟨n, _, hbinding⟩ := mem_bindings_ofNames.mp hi
      exact ⟨i, hi, Or.inl (originModule_binding? hbinding)⟩

end ImportReading

/-! ## Bindings -/

theorem FileImports.entries_moduleMap (src : Source) (file : String) (root : Node) :
    (ofTree src file root).moduleMap.entries = lastOfEach (ofTree src file root).imports := by
  have hrun := @ImportMap.entries_foldl_step ((root.importsWithin.map
    (ImportReading.ofStatement src file)).flatMap ImportReading.steps) {} [] rfl
  rw [← ImportReading.foldl_take_eq, List.filterMap_flatMap] at hrun
  simp only [ImportReading.filterMap_bound?_steps, List.nil_append] at hrun
  exact hrun

theorem mem_of_mem_lastOfEach {is : List Import} {i : Import} (h : i ∈ lastOfEach is) : i ∈ is := by
  induction is with
  | nil => exact h
  | cons j rest ih =>
      rw [lastOfEach] at h
      split at h
      · exact List.mem_cons_of_mem _ (ih h)
      · rcases List.mem_cons.mp h with rfl | h
        · exact List.mem_cons_self
        · exact List.mem_cons_of_mem _ (ih h)

/-- What holds of a binding and of all that replace it holds of a last one. -/
theorem exists_mem_lastOfEach {P : Import → Prop} {is : List Import}
    (hkept : is.Pairwise fun i j => i.localName = j.localName → P i → P j) (h : ∃ i ∈ is, P i) :
    ∃ i ∈ lastOfEach is, P i := by
  induction is with
  | nil => exact h
  | cons j rest ih =>
      obtain ⟨hfirst, hrest⟩ := List.pairwise_cons.mp hkept
      obtain ⟨i, hi, hP⟩ := h
      rw [lastOfEach]
      split
      · rename_i hlater
        obtain ⟨k, hk, hname⟩ := List.mem_map.mp (List.contains_iff_mem.mp hlater)
        refine ih hrest ?_
        -- a binding that is replaced hands the property on to the one that replaces it
        rcases List.mem_cons.mp hi with rfl | hi
        · exact ⟨k, hk, hfirst k hk hname.symm hP⟩
        · exact ⟨i, hi, hP⟩
      · rcases List.mem_cons.mp hi with rfl | hi
        · exact ⟨i, List.mem_cons_self, hP⟩
        · obtain ⟨k, hk, hP⟩ := ih hrest ⟨i, hi, hP⟩
          exact ⟨k, List.mem_cons_of_mem _ hk, hP⟩

/-! ## Packages -/

section Package

variable (src : Source) (file : String) (root : Node) (package : String)

/-- A statement of the module imports from the package. -/
def ImportsFrom : Prop :=
  ∃ statement ∈ root.importsWithin, ∃ module ∈ statement.importedModules src,
    Text.firstPart module = package

/-- A name of the module is bound to something of the package when the last binding of a name wins. -/
def BoundFrom : Prop :=
  ∃ i ∈ lastOfEach (FileImports.ofTree src file root).imports, packageOf i.originModule = package

/-- The package is imported by its name, name by name, and no name is taken from it. -/
structure PlainlyImported : Prop where
  named : ∀ statement ∈ root.importsWithin, ∀ module ∈ statement.importedModules src,
    Text.firstPart module = package → statement.importsWhole = false
  absolute : ∀ statement ∈ root.importsWithin, ∀ module ∈ statement.importedModules src,
    packageOf module = package → Text.firstPart module = package
  kept : (FileImports.ofTree src file root).imports.Pairwise fun i j =>
    i.localName = j.localName → packageOf i.originModule = package → packageOf j.originModule = package

variable {src file root package}

theorem mem_packages_iff {m : ImportMap} :
    package ∈ m.packages ↔ ∃ i ∈ m.entries, packageOf i.originModule = package := by
  rw [ImportMap.packages, (sortedSet_spec _).1, List.mem_map]

theorem mem_packages_moduleMap :
    package ∈ (FileImports.ofTree src file root).moduleMap.packages ↔
      BoundFrom src file root package := by
  rw [mem_packages_iff, FileImports.entries_moduleMap]
  rfl

theorem PlainlyImported.boundFrom_iff (h : PlainlyImported src file root package)
    (hpackage : package ≠ "")
    (hclean : ∀ statement ∈ root.importsWithin,
      (ImportReading.ofStatement src file statement).diagnostics = []) :
    BoundFrom src file root package ↔ ImportsFrom src root package := by
  constructor
  · rintro ⟨i, hi, hi'⟩
    obtain ⟨reading, hreading, hbound⟩ := List.mem_flatMap.mp (mem_of_mem_lastOfEach hi)
    obtain ⟨statement, hstatement, rfl⟩ := List.mem_map.mp hreading
    obtain ⟨module, hmodule, horigin⟩ := ImportReading.exists_importedModule hbound
    refine ⟨statement, hstatement, module, hmodule, ?_⟩
    rcases horigin with horigin | horigin
    · exact h.absolute statement hstatement module hmodule (horigin ▸ hi')
    · rw [← packageOf_firstPart, ← horigin, hi']
  · rintro ⟨statement, hstatement, module, hmodule, hfirst⟩
    obtain ⟨i, hi, horigin⟩ := ImportReading.exists_binding (hclean statement hstatement)
      (h.named statement hstatement module hmodule hfirst) hmodule
    refine exists_mem_lastOfEach h.kept ⟨i, ?_, horigin.packageOf hfirst hpackage⟩
    exact List.mem_flatMap.mpr ⟨_, List.mem_map_of_mem hstatement, hi⟩

end Package

/-! ## Trees of statements -/

def dottedName (role : String) (start stop : Nat) : Node :=
  .node { kind := "dotted_name", start, stop, field := some role } []

/-- The tree of a statement that imports names of a module. -/
def fromStatement (start stop : Nat) (module : Node) (names : List Node) : Node :=
  .node { kind := "import_from_statement", start, stop }
    (token "from" start (start + 4) :: module :: token "import" (module.stop + 1) (module.stop + 7) ::
      names)

/-- The tree of a statement that imports a module under another name. -/
def importAs (start moduleStop stop : Nat) : Node :=
  .node { kind := "import_statement", start, stop }
    [token "import" start (start + 6),
     .node { kind := "aliased_import", start := start + 7, stop, field := some "name" }
      [dottedName "name" (start + 7) moduleStop, token "as" (moduleStop + 1) (moduleStop + 3),
       .node { kind := "identifier", start := moduleStop + 4, stop, field := some "alias" } []]]

end SourceFacts
