import Mathlib.Algebra.GroupWithZero.Nat
import SourceFacts.Proofs.Report.Reference

/-!
# The views of a report

A report is given out as a document, as tables and as counts. All of them list the same facts in the same
order, file by file, and no table lacks a value that its columns ask for.
-/

namespace SourceFacts

open Document (fieldOf nat)

/-- The items of a field of a record. -/
def Document.items (name : String) : Document → List Document
  | .record fields =>
    match fieldOf fields name with
    | .list items => items
    | _ => []
  | _ => []

/-! ## Kinds of facts -/

/-- The kinds of facts that are listed over all files. -/
inductive FactKind where
  | symbols
  | calls
  | endpoints
  | routerMounts
  | clientCalls
  | protocols
  | implementers
  | tests

namespace FactKind

/-- The name of the section and of the table. -/
def name : FactKind → String
  | .symbols => "symbols"
  | .calls => "calls"
  | .endpoints => "endpoints"
  | .routerMounts => "router_mounts"
  | .clientCalls => "client_calls"
  | .protocols => "protocols"
  | .implementers => "implementers"
  | .tests => "tests"

def Fact : FactKind → Type
  | .symbols => Symbol
  | .calls => CallSite
  | .endpoints => Endpoint
  | .routerMounts => RouterMount
  | .clientCalls => ClientCall
  | .protocols => Protocol
  | .implementers => Implementer
  | .tests => TestCase

/-- The facts of a file. -/
def facts : (k : FactKind) → FileFacts → List k.Fact
  | .symbols => (·.symbols)
  | .calls => (·.calls)
  | .endpoints => (·.endpoints)
  | .routerMounts => (·.routerMounts)
  | .clientCalls => (·.clientCalls)
  | .protocols => (·.protocols)
  | .implementers => (·.implementers)
  | .tests => (·.tests)

/-- The fields of a fact in a document. -/
def fields : (k : FactKind) → k.Fact → Document.Fields
  | .symbols => Symbol.fields
  | .calls => CallSite.fields
  | .endpoints => Endpoint.fields
  | .routerMounts => RouterMount.fields
  | .clientCalls => ClientCall.fields
  | .protocols => Protocol.fields
  | .implementers => Implementer.fields
  | .tests => TestCase.fields

/-- The record of a fact of a file in a document. -/
def record (k : FactKind) (file : String) (a : k.Fact) : Document.Fields :=
  ("file", .text file) :: k.fields a

/-- The row of a fact of a file in a table. -/
def row : (k : FactKind) → String → k.Fact → Document.Fields
  | .symbols => Report.symbolRow
  | .calls => Report.callRow
  | .endpoints => Report.endpointRow
  | .routerMounts => Report.plainRow RouterMount.fields
  | .clientCalls => Report.clientCallRow
  | .protocols => Report.protocolRow
  | .implementers => Report.implementerRow
  | .tests => Report.plainRow TestCase.fields

/-- The columns that the records do not have: identifiers, and the two parts of a target. -/
def ownColumns : FactKind → List String
  | .symbols => ["id"]
  | .calls => ["caller_id", "target_module", "target_symbol", "target_id"]
  | .endpoints => ["handler_id"]
  | _ => []

/-- The field of a record that a column shows; three of them have another name. -/
def fieldName : FactKind → String → String
  | .clientCalls, "is_async" => "isAsync"
  | .protocols, "required_members" => "requiredMembers"
  | .implementers, "match_kind" => "matchKind"
  | _, column => column

end FactKind

namespace Report

variable (r : Report)

/-- The columns of the table with a name. -/
def columnsNamed (name : String) : List String :=
  (r.tables.filter fun t => t.name == name).flatMap fun t => t.columns.map (·.1)

/-- The facts of a kind over all files, each with the path of its file. -/
def listed (k : FactKind) : List (String × k.Fact) :=
  r.files.flatMap fun f => (k.facts f).map fun a => (f.path, a)

/-- The imports of all files, each with the path of its file. -/
def listedImports : List (String × Import) :=
  r.files.flatMap fun f => f.imports.map fun i => (f.path, i)

theorem rowsNamed_kind (k : FactKind) :
    r.rowsNamed k.name = (r.listed k).map fun x => k.row x.1 x.2 := by
  have hrows : r.rowsNamed k.name = r.rowsOf k.facts k.row ++ [] := by
    cases k <;> rfl
  rw [hrows, List.append_nil, listed, List.map_flatMap, rowsOf]
  simp only [List.map_map, Function.comp_def]

theorem items_document_kind (k : FactKind) :
    r.document.items k.name = (r.listed k).map fun x => .record (k.record x.1 x.2) := by
  have hitems : r.document.items k.name = r.factSection k.facts k.fields := by
    cases k <;> rfl
  rw [hitems, listed, List.map_flatMap, factSection]
  simp only [List.map_map, Function.comp_def]
  rfl

theorem length_factSection {α : Type} (facts : FileFacts → List α) (fields : α → Document.Fields) :
    (r.factSection facts fields).length = r.factCount facts := by
  -- The count starts anywhere: what has been counted is added to the rest.
  have hcount : ∀ (fs : List FileFacts) (n : Nat),
      fs.foldl (fun n f => n + (facts f).length) n =
        n + (fs.flatMap fun f => (facts f).map (inFile fields f)).length := by
    intro fs
    induction fs with
    | nil => exact fun n => rfl
    | cons f fs ih =>
        intro n
        rw [List.foldl_cons, ih, List.flatMap_cons, List.length_append, List.length_map, Nat.add_assoc]
  rw [factCount, hcount, Nat.zero_add, factSection]

/-- What is counted file by file is how long the sections of the document are. -/
theorem stats_eq_sections :
    r.stats = ("files", r.files.length) :: r.sections.map (fun s => (s.1, s.2.length)) ++
      [("diagnostics", r.diagnostics.length), ("skipped", r.skipped.length)] := by
  simp only [sections, List.map_cons, List.map_nil, length_factSection]
  rfl

theorem lookup_stats_kind (k : FactKind) : r.stats.lookup k.name = some (r.listed k).length := by
  have hstats : r.stats.lookup k.name = some (r.factSection k.facts k.fields).length := by
    rw [stats_eq_sections]
    cases k <;> rfl
  rw [hstats, listed, factSection, List.length_flatMap, List.length_flatMap]
  simp only [List.length_map]

theorem imports_document : (r.document.items "files").flatMap (Document.items "imports") =
    r.listedImports.map fun x => .record x.2.fields := by
  change (r.files.map fun f => Document.record f.headFields).flatMap (Document.items "imports") = _
  rw [List.flatMap_map, listedImports, List.map_flatMap]
  simp only [List.map_map, Function.comp_def]
  rfl

theorem imports_table :
    r.rowsNamed "imports" = r.listedImports.map fun x => ("file", .text x.1) :: x.2.fields := by
  change r.rowsOf (·.imports) (plainRow Import.fields) ++ [] = _
  rw [List.append_nil, rowsOf, listedImports, List.map_flatMap]
  simp only [List.map_map, Function.comp_def]
  rfl

/-- A column that the row does not have for itself shows the value of a field of the record. -/
theorem shared_value {columns own : List String} {row record : Document.Fields} {name : String → String}
    (hshared : (columns.filter fun c => !own.contains c).map (fun c => row.lookup c) =
      (columns.filter fun c => !own.contains c).map fun c => record.lookup (name c))
    (hheld : columns.all (fun c => (row.lookup c).isSome) = true) {column : String}
    (hcolumn : column ∈ columns) (hown : column ∉ own) :
    ∃ d, row.lookup column = some d ∧ record.lookup (name column) = some d := by
  have hmem : column ∈ columns.filter fun c => !own.contains c :=
    List.mem_filter.mpr ⟨hcolumn, by simpa using hown⟩
  obtain ⟨d, hd⟩ := Option.isSome_iff_exists.mp (List.all_eq_true.mp hheld column hcolumn)
  exact ⟨d, hd, (List.map_inj_left.mp hshared column hmem).symm.trans hd⟩

theorem same_value (k : FactKind) (file : String) (a : k.Fact) {column : String}
    (hcolumn : column ∈ r.columnsNamed k.name) (hown : column ∉ k.ownColumns) :
    ∃ d, (k.row file a).lookup column = some d ∧
      (k.record file a).lookup (k.fieldName column) = some d := by
  refine shared_value ?_ ?_ hcolumn hown
  · cases k <;> rfl
  · cases k <;> rfl

end Report

/-! ## Columns -/

/-- Every row holds a value for every column. -/
def Table.IsComplete (t : Table) : Prop :=
  ∀ row ∈ t.rows, ∀ column ∈ t.columns, ∃ d, row.lookup column.1 = some d

/-- The cells of a complete table are what its rows hold. -/
theorem Table.IsComplete.cells_eq {t : Table} (h : t.IsComplete) :
    t.cells.map (·.map some) = t.rows.map fun row => t.columns.map fun c => row.lookup c.1 := by
  rw [Table.cells, List.map_map]
  refine List.map_congr_left fun row hrow => ?_
  rw [Function.comp_apply, List.map_map]
  refine List.map_congr_left fun column hcolumn => ?_
  obtain ⟨d, hd⟩ := h row hrow column hcolumn
  rw [Function.comp_apply, fieldOf, hd]
  rfl

namespace Report

theorem isComplete_of_rows {t : Table} {α : Type} {row : α → Document.Fields}
    (hrows : ∀ fields ∈ t.rows, ∃ a, fields = row a)
    (hheld : ∀ a, t.columns.all (fun c => ((row a).lookup c.1).isSome) = true) : t.IsComplete := by
  intro fields hfields column hcolumn
  obtain ⟨a, rfl⟩ := hrows fields hfields
  exact Option.isSome_iff_exists.mp (List.all_eq_true.mp (hheld a) column hcolumn)

theorem isComplete_of_mem_tables {r : Report} {t : Table} (h : t ∈ r.tables) : t.IsComplete := by
  have hmap : ∀ {α : Type} {l : List α} {row : α → Document.Fields},
      ∀ fields ∈ l.map row, ∃ a, fields = row a := by
    intro α l row fields hfields
    obtain ⟨a, _, rfl⟩ := List.mem_map.mp hfields
    exact ⟨a, rfl⟩
  have hrowsOf : ∀ {α : Type} {facts : FileFacts → List α} {row : String → α → Document.Fields},
      ∀ fields ∈ r.rowsOf facts row, ∃ x : String × α, fields = row x.1 x.2 := by
    intro α facts row fields hfields
    obtain ⟨f, _, a, _, rfl⟩ := r.mem_rowsOf.mp hfields
    exact ⟨(f.path, a), rfl⟩
  simp only [tables, List.mem_cons, List.not_mem_nil, or_false] at h
  rcases h with rfl | rfl | rfl | rfl | rfl | rfl | rfl | rfl | rfl | rfl | rfl
  · exact isComplete_of_rows hmap fun _ => rfl
  · exact isComplete_of_rows hrowsOf fun _ => rfl
  · exact isComplete_of_rows hrowsOf fun _ => rfl
  · exact isComplete_of_rows hrowsOf fun _ => rfl
  · exact isComplete_of_rows hrowsOf fun _ => rfl
  · exact isComplete_of_rows hrowsOf fun _ => rfl
  · exact isComplete_of_rows hrowsOf fun _ => rfl
  · exact isComplete_of_rows hrowsOf fun _ => rfl
  · exact isComplete_of_rows hrowsOf fun _ => rfl
  · exact isComplete_of_rows hrowsOf fun _ => rfl
  · exact isComplete_of_rows hmap fun _ => rfl

/-! ## Agreement -/

variable (r : Report)

/-- The section, the table and the count of a kind list the same facts, file by file. -/
structure SectionAgrees (k : FactKind) : Prop where
  document : r.document.items k.name = (r.listed k).map fun x => .record (k.record x.1 x.2)
  table : r.rowsNamed k.name = (r.listed k).map fun x => k.row x.1 x.2
  length : (r.rowsNamed k.name).length = (r.document.items k.name).length
  count : r.stats.lookup k.name = some (r.rowsNamed k.name).length
  same : ∀ x ∈ r.listed k, ∀ column ∈ r.columnsNamed k.name, column ∉ k.ownColumns →
    ∃ d, (k.row x.1 x.2).lookup column = some d ∧
      (k.record x.1 x.2).lookup (k.fieldName column) = some d

theorem sectionAgrees (k : FactKind) : r.SectionAgrees k where
  document := r.items_document_kind k
  table := r.rowsNamed_kind k
  length := by rw [rowsNamed_kind, items_document_kind, List.length_map, List.length_map]
  count := by rw [lookup_stats_kind, rowsNamed_kind, List.length_map]
  same := fun x _ _ hcolumn hown => r.same_value k x.1 x.2 hcolumn hown

/-- What is said of the files, and of their imports, is the same in all views. -/
structure FilesAgree : Prop where
  document : r.document.items "files" = r.files.map fun f => .record f.headFields
  table : r.rowsNamed "files" = r.files.map fileRow
  count : r.stats.lookup "files" = some r.files.length
  same : ∀ f ∈ r.files, ∀ column ∈ r.columnsNamed "files", column ≠ "import_count" →
    ∃ d, (fileRow f).lookup column = some d ∧ f.headFields.lookup column = some d
  imports_document : (r.document.items "files").flatMap (Document.items "imports") =
    r.listedImports.map fun x => .record x.2.fields
  imports_table : r.rowsNamed "imports" = r.listedImports.map fun x =>
    ("file", .text x.1) :: x.2.fields
  import_count : ∃ counts : List Nat, counts = r.files.map (·.imports.length) ∧
    (r.rowsNamed "files").map (fieldOf · "import_count") = counts.map nat ∧
    counts.sum = (r.rowsNamed "imports").length

theorem filesAgree : r.FilesAgree where
  document := rfl
  table := (List.append_nil _ : _ ++ [] = _)
  count := rfl
  same := fun f _ _ hcolumn hne =>
    @shared_value (r.columnsNamed "files") ["import_count"] (fileRow f) f.headFields id rfl rfl _ hcolumn
      (by simpa using hne)
  imports_document := r.imports_document
  imports_table := r.imports_table
  import_count := by
    refine ⟨_, rfl, ?_, ?_⟩
    · change ((r.files.map fileRow) ++ []).map (fieldOf · "import_count") = _
      rw [List.append_nil, List.map_map, List.map_map]
      rfl
    · rw [imports_table, List.length_map, listedImports, List.length_flatMap]
      simp only [List.length_map]

/-- The diagnostics are the same in all views. -/
structure DiagnosticsAgree : Prop where
  document : r.document.items "diagnostics" = r.diagnostics.map fun d => .record d.fields
  table : r.rowsNamed "diagnostics" = r.diagnostics.map Diagnostic.fields
  count : r.stats.lookup "diagnostics" = some r.diagnostics.length

theorem diagnosticsAgree : r.DiagnosticsAgree where
  document := rfl
  table := (List.append_nil _ : _ ++ [] = _)
  count := rfl

theorem sum_countP_kind (cs : List CallSite) :
    (CallKind.all.map fun kind => cs.countP fun c => decide (c.kind = kind)).sum = cs.length := by
  induction cs with
  | nil => rfl
  | cons c cs ih =>
      simp only [CallKind.all, List.map_cons, List.map_nil, List.sum_cons, List.sum_nil,
        List.countP_cons, List.length_cons] at ih ⊢
      cases c.kind <;> simp <;> omega

/-- The calls are counted by their four kinds, and each of them once. -/
structure CallCountsAgree : Prop where
  kinds : r.namedCallCounts.map (·.1) =
    ["SameFileCall", "ImportQualifiedCall", "SelfMethodCall", "Unresolved"]
  each : ∀ kind : CallKind, r.namedCallCounts.lookup kind.name =
    some ((r.files.flatMap (·.calls)).countP fun c => decide (c.kind = kind))
  total : r.stats.lookup "calls" = some (r.namedCallCounts.map (·.2)).sum

theorem callCountsAgree : r.CallCountsAgree where
  kinds := rfl
  each := by
    intro kind
    cases kind <;> rfl
  total := by
    have hcounts : r.namedCallCounts.map (·.2) = CallKind.all.map fun kind =>
        (r.files.flatMap (·.calls)).countP fun c => decide (c.kind = kind) := rfl
    have hlisted : (r.listed .calls).length = (r.files.flatMap (·.calls)).length := by
      rw [listed, List.length_flatMap, List.length_flatMap]
      simp only [List.length_map]
      rfl
    rw [hcounts, sum_countP_kind, ← hlisted]
    exact r.lookup_stats_kind .calls

theorem target_eq (file : String) (c : CallSite) :
    fieldOf c.fields "target" =
      if c.kind = .unresolved then .null
      else .record [("module", fieldOf (callRow file c) "target_module"),
        ("symbol", fieldOf (callRow file c) "target_symbol")] := by
  change c.target = _
  unfold CallSite.target
  cases c.kind <;> rfl

/-- All views of a report agree. Each kind of fact has a section, a table and a count, which list the
same facts of the same files in the same order; a column shows the value of the field of the record, under
the same name or under one of three others, and the target of a call is shown in two columns. The same
holds of the files, of their imports, whose numbers add up to the rows of the imports, and of the
diagnostics. The calls are counted by all four kinds, and the numbers add up to that of all calls. Every
row of every table holds every column, so the cells of a table are what its rows hold. -/
theorem views_agree (r : Report) :
    (∀ k : FactKind, r.SectionAgrees k) ∧ r.FilesAgree ∧ r.DiagnosticsAgree ∧ r.CallCountsAgree ∧
    (∀ file c, fieldOf (CallSite.fields c) "target" =
      if c.kind = .unresolved then .null
      else .record [("module", fieldOf (callRow file c) "target_module"),
        ("symbol", fieldOf (callRow file c) "target_symbol")]) ∧
    ∀ t ∈ r.tables, t.IsComplete ∧
      t.cells.map (·.map some) = t.rows.map fun row => t.columns.map fun c => row.lookup c.1 :=
  ⟨r.sectionAgrees, r.filesAgree, r.diagnosticsAgree, r.callCountsAgree, target_eq,
    fun _ ht => ⟨isComplete_of_mem_tables ht, (isComplete_of_mem_tables ht).cells_eq⟩⟩

/-- A report on two files with a request and two calls. -/
def twoFiles : Report where
  files :=
    [{ path := "a.py", module := "a", contentHash := ""
       imports := [{ localName := "aiohttp", originModule := "aiohttp", line := some 1 }]
       calls := [{ caller := "f", callee := "aiohttp.get", kind := .importQualified, line := some 2
                   column := some 0, targetModule := some "aiohttp", targetSymbol := some "get" }]
       clientCalls := [{ method := "GET", path := some "/u", pathKind := "literal", isAsync := true
                         library := "aiohttp", caller := "f", line := some 2, column := some 0
                         expression := "\"/u\"" }] },
     { path := "b.py", module := "b", contentHash := ""
       calls := [{ caller := moduleScope, callee := "g", kind := .unresolved, line := some 1
                   column := some 0 }] }]

theorem views_agree_two_files :
    twoFiles.SectionAgrees .clientCalls ∧
      (twoFiles.rowsNamed "client_calls").map (fieldOf · "is_async") = [.bool true] ∧
      twoFiles.stats.lookup "calls" = some 2 ∧ twoFiles.namedCallCounts.map (·.2) = [0, 1, 0, 1] ∧
      ∃ t ∈ twoFiles.tables, t.name = "calls" ∧ t.rows.length = 2 ∧ t.IsComplete := by
  obtain ⟨hsections, -, -, -, -, htables⟩ := views_agree twoFiles
  refine ⟨hsections .clientCalls, rfl, rfl, rfl, ?_⟩
  have hmem : twoFiles.tables.get ⟨3, by decide⟩ ∈ twoFiles.tables := List.get_mem ..
  exact ⟨_, hmem, rfl, rfl, (htables _ hmem).1⟩

end Report

end SourceFacts
