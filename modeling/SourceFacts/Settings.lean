import SourceFacts.Config
import SourceFacts.Dictionary
import SourceFacts.Document
import SourceFacts.Misfit
import SourceFacts.Text.Glob

/-!
# Settings

A configuration as named values that can be changed by name. A value is not checked: it is kept as
it is given, the configuration takes from it what it can use, and the misfits tell which of its
uses fail. Reading the settings of a configuration gives the configuration back, and every use of
them succeeds.
-/

namespace SourceFacts

/-- The words of a value; those of a record are the names of its fields. -/
def Words.ofDocument : Document → Words
  | .text s => .one s
  | .list items => .many (items.filterMap Document.text?)
  | .record fields => .many (fields.map (·.1))
  | _ => .many []

/-- The value that holds some words. -/
def Words.document : Words → Document
  | .many words => Document.texts words
  | .one text => .text text

theorem Words.ofDocument_document (w : Words) : Words.ofDocument w.document = w := by
  cases w with
  | many words =>
    simp only [Words.document, Document.texts, Words.ofDocument, List.filterMap_map]
    rw [show Document.text? ∘ Document.text = some from rfl, List.filterMap_some]
  | one text => rfl

/-- Why a setting cannot be changed. -/
inductive ConfigError where
  | unknownName (name : String)
  | reservedName (name : String)

/-- The report of an error. -/
def ConfigError.message : ConfigError → String
  | .unknownName name => s!"AnalyzerConfig.__init__() got an unexpected keyword argument '{name}'"
  | .reservedName name =>
    s!"AnalyzerConfig.with_overrides() got multiple values for argument '{name}'"

/-- Values by the names of the settings. -/
abbrev Settings := Dictionary String Document

namespace Settings

/-- The settings of a configuration. -/
def ofConfig (c : Config) : Settings where
  entries :=
    [("route_decorator", .text c.routeDecorator),
     ("route_verbs", c.routeVerbs.document),
     ("router_mount_methods", c.routerMountMethods.document),
     ("http_client_libraries", c.httpClientLibraries.document),
     ("http_client_methods", c.httpClientMethods.document),
     ("test_function_prefixes", c.testFunctionStarts.document),
     ("test_class_prefixes", c.testClassStarts.document),
     ("test_file_patterns", c.testFilePatterns.document),
     ("exclude_patterns", c.excludePatterns.document),
     ("max_workers", Document.optional .int c.maxWorkers)]

/-- The value of a setting. -/
def value (s : Settings) (name : String) : Document :=
  (s.get? name).getD .null

/-- The words of a setting. -/
def words (s : Settings) (name : String) : Words :=
  Words.ofDocument (s.value name)

/-- A text that is not the last part of any name. -/
def noAttribute : String := "."

/-- The configuration that the settings give. -/
def config (s : Settings) : Config where
  routeDecorator := (s.value "route_decorator").text?.getD noAttribute
  routeVerbs := s.words "route_verbs"
  routerMountMethods := s.words "router_mount_methods"
  httpClientLibraries := s.words "http_client_libraries"
  httpClientMethods := s.words "http_client_methods"
  testFunctionStarts := s.words "test_function_prefixes"
  testClassStarts := s.words "test_class_prefixes"
  testFilePatterns := s.words "test_file_patterns"
  excludePatterns := s.words "exclude_patterns"
  maxWorkers := (s.value "max_workers").count?

/-- What choosing paths by patterns meets. Already the first part of a path is compared with all
patterns. -/
def excludeMisfit? (patterns : Document) (paths : List (List String)) : Option Misfit :=
  match patterns with
  | .list items =>
    (paths.filterMap List.head?).findSome? fun name =>
      Document.itemMisfit? (fun p => Text.Glob.accepts p name) .notPathPattern items
  | d => d.itemsMisfit? (fun _ => false) .notPathPattern

/-- What comparing a value with a number meets. -/
def countMisfit? : Document → Option Misfit
  | .text _ => some (.notCount "str")
  | .list _ => some (.notCount "tuple")
  | .record _ => some (.notCount "dict")
  | _ => none

/-- What the uses of the settings meet. -/
def misfits (s : Settings) : Misfits where
  routeVerbs := (s.value "route_verbs").membersMisfit?
  routerMountMethods := (s.value "router_mount_methods").membersMisfit?
  httpClientLibraries := fun module =>
    (s.value "http_client_libraries").itemsMisfit? (fun l => Text.isWithin l module) .notPackage
  httpClientMethods := (s.value "http_client_methods").membersMisfit?
  testFunctionStarts := fun name => (s.value "test_function_prefixes").startsMisfit? name
  testClassStarts := fun name => (s.value "test_class_prefixes").startsMisfit? name
  testFilePatterns := fun name =>
    (s.value "test_file_patterns").itemsMisfit? (fun p => Text.Glob.accepts p name) .notFilePattern
  excludePatterns := excludeMisfit? (s.value "exclude_patterns")
  maxWorkers := countMisfit? (s.value "max_workers")

/-- Changes a setting; null leaves it as it is, whatever the name. -/
def change (s : Settings) (name : String) : Document → Except ConfigError Settings
  | .null => .ok s
  | v =>
    match s.get? name with
    | some _ => .ok (s.put name v)
    | none => .error (.unknownName name)

/-- The name that no change may have, not even without a value. -/
def reserved : String := "self"

/-- Changes several settings. -/
def override (s : Settings) (changes : List (String × Document)) : Except ConfigError Settings :=
  if changes.any (fun c => c.1 == reserved) then .error (.reservedName reserved)
  else changes.foldlM (fun s c => s.change c.1 c.2) s

theorem config_ofConfig (c : Config) : (ofConfig c).config = c := by
  obtain ⟨_, _, _, _, _, _, _, _, _, workers⟩ := c
  cases workers <;>
    simp [config, ofConfig, words, value, Dictionary.get?, Words.ofDocument_document,
      Document.text?, Document.count?, Document.optional]

theorem misfits_ofConfig (c : Config) : (ofConfig c).misfits = {} := by
  obtain ⟨_, verbs, mounts, libraries, methods, functions, classes, files, excluded, workers⟩ := c
  have members (w : Words) : w.document.membersMisfit? = none := by cases w <;> rfl
  have items (w : Words) (ends : String → Bool) (misfit : String → Misfit) :
      w.document.itemsMisfit? ends misfit = none := by
    cases w with
    | many words => exact Document.itemMisfit?_texts ends misfit words
    | one text => rfl
  have starts (w : Words) (name : String) : w.document.startsMisfit? name = none := by
    cases w with
    | many words => exact Document.itemMisfit?_texts _ _ words
    | one text => rfl
  have exclude (w : Words) (paths : List (List String)) :
      excludeMisfit? w.document paths = none := by
    cases w with
    | many words =>
      simp [excludeMisfit?, Words.document, Document.texts, Document.itemMisfit?_texts]
    | one text => rfl
  have count (n : Option Int) : countMisfit? (Document.optional .int n) = none := by cases n <;> rfl
  simp [misfits, ofConfig, value, Dictionary.get?, members, items, starts, count]
  exact funext (exclude excluded)

end Settings

/-- Changes some conventions by the names of their settings. -/
def Config.override (c : Config) (changes : List (String × Document)) :
    Except ConfigError Config :=
  ((Settings.ofConfig c).override changes).map Settings.config

end SourceFacts
