import SourceFacts.Proofs.Endpoint.Route
import SourceFacts.Proofs.Import.Package

/-!
# The framework of a verb

Whether an endpoint that is named by a verb belongs to the one framework or to the other is told from
the packages to which the names of the module are bound. These are the packages that the statements of
the module import from, if both are imported plainly.
-/

namespace SourceFacts

/-- The endpoint belongs to `flask` if that is imported and `fastapi` is not, and else to `fastapi`. -/
def Endpoint.FollowsImports (imported : String → Prop) (e : Endpoint) : Prop :=
  (imported "flask" ∧ ¬ imported "fastapi" → e.framework = "flask") ∧
    (¬ (imported "flask" ∧ ¬ imported "fastapi") → e.framework = "fastapi")

theorem Endpoint.FollowsImports.congr {imported imported' : String → Prop} {e : Endpoint}
    (h : e.FollowsImports imported) (hflask : imported "flask" ↔ imported' "flask")
    (hfastapi : imported "fastapi" ↔ imported' "fastapi") : e.FollowsImports imported' := by
  rwa [FollowsImports, hflask, hfastapi] at h

theorem frameworkOr_framework? (m : ImportMap) :
    ("flask" ∈ m.packages ∧ "fastapi" ∉ m.packages → frameworkOr m.framework? = "flask") ∧
    (¬ ("flask" ∈ m.packages ∧ "fastapi" ∉ m.packages) → frameworkOr m.framework? = "fastapi") := by
  unfold ImportMap.framework?
  by_cases hfastapi : "fastapi" ∈ m.packages
  · rw [if_pos (List.contains_iff_mem.mpr hfastapi)]
    exact ⟨fun h => absurd hfastapi h.2, fun _ => rfl⟩
  · rw [if_neg (mt List.contains_iff_mem.mp hfastapi)]
    by_cases hflask : "flask" ∈ m.packages
    · rw [if_pos (List.contains_iff_mem.mpr hflask)]
      exact ⟨fun _ => rfl, fun h => absurd ⟨hflask, hfastapi⟩ h⟩
    · rw [if_neg (mt List.contains_iff_mem.mp hflask)]
      exact ⟨fun h => absurd h.1 hflask, fun _ => rfl⟩

/-- The decorator calls a member of a router that is named by a verb, and does not list methods. -/
def Decorator.NamesVerb (config : Config) (d : Decorator) : Prop :=
  ∃ router member, d.Applies router member ∧ member ≠ config.routeDecorator

theorem Decorator.framework_of_verb {config : Config} {hint : Option String} {handler : String}
    {d : Decorator} (hverb : d.NamesVerb config) {e : Endpoint}
    (he : e ∈ d.endpoints config hint handler) : e.framework = frameworkOr hint := by
  obtain ⟨router, member, happlies, hroute⟩ := hverb
  rw [endpoints_eq happlies, routeBinding?, if_neg (mt beq_iff_eq.mp hroute)] at he
  split at he
  · rename_i methods framework path hbinding _
    obtain ⟨method, _, rfl⟩ := List.mem_map.mp he
    split at hbinding
    · cases hbinding
      rfl
    · exact absurd hbinding (by simp)
  · exact absurd he List.not_mem_nil

section File

variable {config : Config} {misfits : Misfits} {faults : Faults} {file : String} {src : Source}
variable {root : Node} {e : Endpoint}

theorem exists_decorator (h : e ∈ fileEndpoints config misfits faults file src root) :
    ∃ s ∈ fileSymbols faults file src root, ∃ d ∈ s.decorators,
      e ∈ d.endpoints config (fileImports faults file src root).moduleMap.framework?
        s.qualifiedName := by
  have hdecorated := fileEndpoints_prefix config misfits faults file src root
  obtain ⟨s, hs, he⟩ := List.mem_flatMap.mp (hdecorated.subset h)
  obtain ⟨d, hd, he⟩ := List.mem_flatMap.mp he
  exact ⟨s, (List.mem_filter.mp hs).1, d, hd, he⟩

theorem Decorator.followsImports_boundFrom {handler : String} {d : Decorator}
    (hverb : d.NamesVerb config)
    (he : e ∈ d.endpoints config (FileImports.ofTree src file root).moduleMap.framework? handler) :
    e.FollowsImports (BoundFrom src file root) := by
  have hframework := frameworkOr_framework? (FileImports.ofTree src file root).moduleMap
  simp only [mem_packages_moduleMap] at hframework
  rw [Endpoint.FollowsImports, framework_of_verb hverb he]
  exact hframework

end File

/-- Every endpoint comes from a decorator of a symbol, and one that is named by a verb follows what the
names of the module are bound to. If no import of the module is malformed and both packages are
imported plainly, it follows what the module imports from: neither the order of the statements nor
their form matters. -/
theorem verbs_follow_bindings (config : Config) (misfits : Misfits) (faults : Faults)
    (file module : String) (src : Source) (root : Node) (hkind : root.kind = "module")
    (hname : moduleName file = .ok module) (hfault : faults .imports = none) :
    let hint := (FileImports.ofTree src file root).moduleMap.framework?
    ∃ facts, analyzeFile config faults file src (some root) misfits = .ok (.facts facts) ∧
      (∀ e ∈ facts.endpoints, ∃ s ∈ fileSymbols faults file src root, ∃ d ∈ s.decorators,
        e ∈ d.endpoints config hint s.qualifiedName) ∧
      ∀ (d : Decorator) (handler : String), d.NamesVerb config →
        ∀ e ∈ d.endpoints config hint handler,
          e.FollowsImports (BoundFrom src file root) ∧
          ((∀ statement ∈ root.importsWithin,
              (ImportReading.ofStatement src file statement).diagnostics = []) →
            PlainlyImported src file root "flask" → PlainlyImported src file root "fastapi" →
              e.FollowsImports (ImportsFrom src root)) := by
  intro hint
  refine ⟨_, analyzeFile_module config misfits faults file module src root hkind hname, ?_, ?_⟩
  · intro e he
    rw [moduleFacts_endpoints, mem_sortBy] at he
    have horigin := exists_decorator he
    rwa [fileImports, Faults.run_of_none hfault] at horigin
  · intro d handler hverb e he
    have hbound := Decorator.followsImports_boundFrom hverb he
    refine ⟨hbound, fun hclean hflask hfastapi => ?_⟩
    exact hbound.congr (hflask.boundFrom_iff (by decide) hclean)
      (hfastapi.boundFrom_iff (by decide) hclean)

/-! ## Four files -/

/-- The tree of a function under `@a.get("/u")`. -/
def routeOfVerb (start : Nat) : Node :=
  .node { kind := "decorated_definition", start, stop := start + 26 }
    [.node { kind := "decorator", start, stop := start + 12 }
      [token "@" start (start + 1),
       methodCall (start + 1) (start + 2) (start + 6) (start + 12) [address (start + 7)]],
     letterFunction (start + 13) (start + 26) (some "definition") (idleBody (start + 22))]

/-- A file with such a function after some imports. -/
def routingSource (imports : String) : Source :=
  plainSource (imports ++ "@a.get(\"/u\")\ndef f(): pass\n")

/-- The frameworks of the endpoints of a file. -/
def frameworksOf (src : Source) (root : Node) : List String :=
  (decoratedEndpoints {} Faults.none "m.py" src root).map (·.framework)

/-- A name that is bound twice within one package is bound to it. -/
theorem verbs_follow_bindings_flask :
    let src := routingSource "from flask import g\nimport flask as g\n"
    let root := moduleOf 65 [fromStatement 0 19 (dottedName "module_name" 5 10) [dottedName "name" 18 19],
      importAs 20 32 37, routeOfVerb 38]
    let d : Decorator :=
      { text := "a.get(\"/u\")", callee := some "a.get", line := some 3, isCall := true
        arguments := [{ text := "\"/u\"", value := some (.text "/u") }] }
    root.kind = "module" ∧ moduleName "m.py" = .ok "m" ∧ d.NamesVerb {} ∧
      PlainlyImported src "m.py" root "flask" ∧ PlainlyImported src "m.py" root "fastapi" ∧
      ImportsFrom src root "flask" ∧ ¬ ImportsFrom src root "fastapi" ∧
      (∀ e ∈ d.endpoints {} (FileImports.ofTree src "m.py" root).moduleMap.framework? "f",
        e.framework = "flask") ∧
      frameworksOf src root = ["flask"] := by
  intro src root d
  have hverb : d.NamesVerb {} := ⟨"a", "get", ⟨rfl, rfl, by decide⟩, by decide⟩
  have hflask : PlainlyImported src "m.py" root "flask" :=
    ⟨by decide +kernel, by decide +kernel, by decide +kernel⟩
  have hfastapi : PlainlyImported src "m.py" root "fastapi" :=
    ⟨by decide +kernel, by decide +kernel, by decide +kernel⟩
  have himported : ImportsFrom src root "flask" := by
    unfold ImportsFrom
    decide +kernel
  have hother : ¬ ImportsFrom src root "fastapi" := by
    unfold ImportsFrom
    decide +kernel
  obtain ⟨facts, _, _, hlaw⟩ := verbs_follow_bindings {} {} Faults.none "m.py" "m" src root rfl rfl rfl
  refine ⟨rfl, rfl, hverb, hflask, hfastapi, himported, hother, fun e he => ?_, by decide +kernel⟩
  have hfollows := (hlaw d "f" hverb e he).2 (by decide +kernel) hflask hfastapi
  exact hfollows.1 ⟨himported, hother⟩

/-- A module that is imported whole binds no name and does not count. A relative name counts as a
package. A name that is bound again does not count for its first package. -/
theorem verbs_miss_imports :
    let name := dottedName "module_name" 5 10
    let whole := routingSource "from flask import *\n"
    let wholeRoot := moduleOf 47
      [fromStatement 0 19 name [.node { kind := "wildcard_import", start := 18, stop := 19 } []],
       routeOfVerb 20]
    let near := routingSource "from .flask import g\n"
    let nearRoot := moduleOf 48
      [fromStatement 0 20 (.node { kind := "relative_import", start := 5, stop := 11
                                   field := some "module_name" } []) [dottedName "name" 19 20],
       routeOfVerb 21]
    let again := routingSource "import flask as x\nimport b as x\n"
    let againRoot := moduleOf 59 [importAs 0 12 17, importAs 18 26 31, routeOfVerb 32]
    (ImportsFrom whole wholeRoot "flask" ∧ ¬ ImportsFrom whole wholeRoot "fastapi" ∧
      frameworksOf whole wholeRoot = ["fastapi"]) ∧
    (¬ ImportsFrom near nearRoot "flask" ∧ frameworksOf near nearRoot = ["flask"]) ∧
    (ImportsFrom again againRoot "flask" ∧ ¬ ImportsFrom again againRoot "fastapi" ∧
      frameworksOf again againRoot = ["fastapi"]) := by
  unfold ImportsFrom
  decide +kernel

end SourceFacts
