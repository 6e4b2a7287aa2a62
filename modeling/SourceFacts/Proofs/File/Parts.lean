import SourceFacts.File.Analysis
import SourceFacts.Proofs.Dictionary
import SourceFacts.Proofs.Symbol.Position

/-!
# The parts of an analysis

What each stage hands on to the later ones, and how the facts of a file are made from it.
-/

namespace SourceFacts

open Definitions

variable (config : Config) (misfits : Misfits) (faults : Faults) (file module : String)
variable (src : Source) (root : Node)

/-- What the import statements of the file give to the later stages. -/
def fileImports : FileImports :=
  faults.run .imports (FileImports.ofTree src file root) {}

/-- What the statements of the file define for the later stages. -/
def fileDefinitions : Definitions :=
  faults.run .symbols (Definitions.ofModule src file root) {}

/-- The symbols of the file in the order of their definitions. -/
def fileSymbols : List Symbol :=
  (fileDefinitions faults file src root).symbols.map (·.2)

/-- What the calls of the file are resolved against. -/
def fileContext : CallContext where
  src
  imports := (fileImports faults file src root).moduleMap
  symbolAt := (fileDefinitions faults file src root).byOffset
  index := SymbolIndex.ofSymbols (fileSymbols faults file src root)
  localImports :=
    localImportsByName (fileDefinitions faults file src root).byOffset
      (fileImports faults file src root).localMaps

/-- The calls of the file in pre-order, each with its node. -/
def fileCalls : List (CallSite × Node) :=
  faults.run .calls ((fileContext faults file src root).calls root) []

@[simp]
theorem Faults.run_of_none {α : Type} {faults : Faults} {stage : Stage}
    (h : faults stage = Option.none) (found nothing : α) :
    faults.run stage found nothing = found := by
  simp [Faults.run, h]

/-- What holds of what a stage finds and of nothing holds of what it hands on. -/
theorem Faults.run_induction {α : Type} {P : α → Prop} {faults : Faults} {stage : Stage}
    {found nothing : α} (hfound : P found) (hnothing : P nothing) :
    P (faults.run stage found nothing) := by
  unfold Faults.run
  split
  · exact hnothing
  · exact hfound

theorem Faults.mem_of_mem_run {α : Type} {faults : Faults} {stage : Stage} {found : List α} {a : α}
    (h : a ∈ faults.run stage found []) : a ∈ found := by
  revert h
  exact Faults.run_induction (P := fun l : List α => a ∈ l → a ∈ found) id
    (fun h => absurd h List.not_mem_nil)

/-! ## The sections -/

theorem moduleFacts_symbols :
    (moduleFacts config faults file module src root misfits).symbols =
      sortBy (thenBy (compareOn (·.line.rank)) (compareOn (·.column.rank)))
        (fileSymbols faults file src root) := rfl

theorem moduleFacts_calls :
    (moduleFacts config faults file module src root misfits).calls =
      sortBy (thenBy (compareOn (·.line.rank)) (compareOn (·.column.rank)))
        ((fileCalls faults file src root).map (·.1)) := rfl

theorem moduleFacts_endpoints :
    (moduleFacts config faults file module src root misfits).endpoints =
      sortBy (thenBy (compareOn (·.line.rank)) (compareOn (·.handler)))
        (faults.run .endpoints
          (endpointsOf config (fileImports faults file src root).moduleMap.framework?
            (fileSymbols faults file src root) misfits) []) := rfl

theorem moduleFacts_clientCalls :
    (moduleFacts config faults file module src root misfits).clientCalls =
      sortBy (thenBy (compareOn (·.line.rank)) (compareOn (·.column.rank)))
        (faults.run .clientCalls
          (clientCallsOf src config (fileCalls faults file src root) misfits) []) := rfl

theorem moduleFacts_protocols :
    (moduleFacts config faults file module src root misfits).protocols =
      sortBy (compareOn (·.line.rank))
        (faults.run .protocols
          (SymbolIndex.ofSymbols (fileSymbols faults file src root)).protocols []) := rfl

theorem moduleFacts_implementers :
    (moduleFacts config faults file module src root misfits).implementers =
      sortBy (thenBy (compareOn (·.line.rank)) (compareOn (·.protocol)))
        (faults.run .protocols
          (SymbolIndex.ofSymbols (fileSymbols faults file src root)).implementers []) := rfl

theorem moduleFacts_tests :
    (moduleFacts config faults file module src root misfits).tests =
      sortBy (compareOn (·.line.rank))
        (faults.run .tests
          (if (testFileMisfit? misfits file).isNone then
            testCasesOf config module (fileSymbols faults file src root) misfits
          else []) []) := rfl

theorem analyzeFile_module (hkind : root.kind = "module") (hname : moduleName file = .ok module) :
    analyzeFile config faults file src (some root) misfits =
      .ok (.facts (moduleFacts config faults file module src root misfits)) := by
  simp [analyzeFile, hkind, hname, pure, Except.pure, bind, Except.bind]

/-! ## Where the symbols come from -/

theorem fileDefinitions_originate :
    ∃ ds, ds.Sublist root.preorder ∧
      List.Forall₂ (OriginatesFrom src root (fileDefinitions faults file src root).symbols) ds
        (fileDefinitions faults file src root).symbols :=
  Faults.run_induction (P := fun defs : Definitions => ∃ ds : List Node,
      ds.Sublist root.preorder ∧ List.Forall₂ (OriginatesFrom src root defs.symbols) ds defs.symbols)
    (originateIn_ofModule src file root) ⟨[], List.nil_sublist _, .nil⟩

variable {faults file src root}

theorem exists_origin {e : Nat × Symbol}
    (he : e ∈ (fileDefinitions faults file src root).symbols) :
    ∃ d, OriginatesFrom src root (fileDefinitions faults file src root).symbols d e := by
  obtain ⟨ds, _, horigins⟩ := fileDefinitions_originate faults file src root
  obtain ⟨d, _, hd⟩ := exists_of_mem_forall₂ horigins he
  exact ⟨d, hd⟩

theorem mem_of_symbolAt {start : Nat} {s : Symbol}
    (h : (fileContext faults file src root).symbolAt.get? start = some s) :
    (start, s) ∈ (fileDefinitions faults file src root).symbols :=
  Dictionary.mem_of_get?_ofList h

/-- Where definitions start at distinct offsets, the entry at the offset of a definition is made from
that definition. -/
theorem originatesFrom_of_distinctStarts {d : Node} {above : List Node} {s : Symbol}
    (h : DistinctStarts root) (hd : isPlainDefinition d.kind = true) (hat : root.At d above)
    (hs : (d.start, s) ∈ (fileDefinitions faults file src root).symbols) :
    OriginatesFrom src root (fileDefinitions faults file src root).symbols d (d.start, s) := by
  obtain ⟨d', hd'⟩ := exists_origin hs
  obtain ⟨outer, parent, hin, _, _⟩ := hd'.made
  obtain ⟨above', hat', _⟩ := hin.at
  obtain ⟨rfl, _⟩ := h.place_unique hd hd'.plain hat hat' hd'.start_eq
  exact hd'

theorem symbolAt_of_mem (h : DistinctStarts root) {start : Nat} {s : Symbol}
    (hs : (start, s) ∈ (fileDefinitions faults file src root).symbols) :
    (fileContext faults file src root).symbolAt.get? start = some s := by
  obtain ⟨ds, hds, horigins⟩ := fileDefinitions_originate faults file src root
  exact Dictionary.get?_ofList_of_mem (h.nodup_entries hds horigins) hs

end SourceFacts
