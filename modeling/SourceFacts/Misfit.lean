import SourceFacts.Document

/-!
# Misfits

A setting is kept as it is given, so its value need not be of a kind that can be used. That shows
only where the setting is used: the work stops there, and what was found before stays. Without
misfits nothing is cut short.
-/

namespace SourceFacts

/-- Why a value, or an item of it, cannot be used. The kind is that of the value or the item. -/
inductive Misfit where
  /-- Nothing can be looked up in the value. -/
  | noMembers (kind : String)
  /-- The value has no items. -/
  | noItems (kind : String)
  /-- The item is no name of a package. -/
  | notPackage (kind : String)
  /-- The value neither begins a name nor lists texts that do. -/
  | noStarts (kind : String)
  /-- The item begins no name. -/
  | notStart (kind : String)
  /-- The item is no pattern for the name of a file. -/
  | notFilePattern (kind : String)
  /-- The item is no pattern for a part of a path. -/
  | notPathPattern (kind : String)
  /-- The value is no path. -/
  | notPath (kind : String)
  /-- The value is no number of workers. -/
  | notCount (kind : String)
  /-- A value of the first kind is neither before nor after one of the second. -/
  | unordered (first second : String)

/-- The report of a misfit. -/
def Misfit.message : Misfit → String
  | .noMembers kind => s!"argument of type '{kind}' is not iterable"
  | .noItems kind => s!"'{kind}' object is not iterable"
  | .notPackage kind =>
    if kind == "list" then "can only concatenate list (not \"str\") to list"
    else s!"unsupported operand type(s) for +: '{kind}' and 'str'"
  | .noStarts kind => s!"startswith first arg must be str or a tuple of str, not {kind}"
  | .notStart kind => s!"tuple for startswith must only contain str, not {kind}"
  | .notFilePattern kind =>
    if kind == "list" || kind == "dict" then s!"unhashable type: '{kind}'"
    else s!"object of type '{kind}' has no len()"
  | .notPathPattern kind | .notPath kind =>
    s!"expected str, bytes or os.PathLike object, not {kind}"
  | .notCount kind => s!"'<=' not supported between instances of '{kind}' and 'int'"
  | .unordered first second =>
    s!"'<' not supported between instances of '{first}' and '{second}'"

/-- Something is asked of a value whose kind does not have it. -/
structure Lack where
  kind : String := "NoneType"
  asked : String

/-- The report of a lack. -/
def Lack.message (l : Lack) : String :=
  s!"'{l.kind}' object has no attribute '{l.asked}'"

/-- What the uses of the settings meet. Where a use can end before it meets the misfit, the misfit
depends on what the setting is used for. -/
structure Misfits where
  routeVerbs : Option Misfit := none
  routerMountMethods : Option Misfit := none
  /-- By the name of a module. -/
  httpClientLibraries : String → Option Misfit := fun _ => none
  httpClientMethods : Option Misfit := none
  /-- By the name of a symbol. -/
  testFunctionStarts : String → Option Misfit := fun _ => none
  /-- By the name of a class. -/
  testClassStarts : String → Option Misfit := fun _ => none
  /-- By the name of a file. -/
  testFilePatterns : String → Option Misfit := fun _ => none
  /-- By the parts of the paths to choose from. -/
  excludePatterns : List (List String) → Option Misfit := fun _ => none
  maxWorkers : Option Misfit := none

/-- The items before the first one that meets a misfit. -/
def beforeMisfit {α : Type} (misfit? : α → Option Misfit) (items : List α) : List α :=
  items.takeWhile fun a => (misfit? a).isNone

@[simp]
theorem beforeMisfit_none {α : Type} (items : List α) :
    beforeMisfit (fun _ => none) items = items := by
  induction items with
  | nil => rfl
  | cons a rest ih => exact congrArg (a :: ·) ih

namespace Document

/-- What looking something up in a value meets. -/
def membersMisfit? : Document → Option Misfit
  | .text _ | .list _ | .record _ => none
  | d => some (.noMembers d.kindName)

/-- The first item that is no text, unless a text that ends the search stands before it. -/
def itemMisfit? (ends : String → Bool) (misfit : String → Misfit) : List Document → Option Misfit
  | [] => none
  | .text s :: rest => if ends s then none else itemMisfit? ends misfit rest
  | d :: _ => some (misfit d.kindName)

/-- What searching the items of a value meets. -/
def itemsMisfit? (ends : String → Bool) (misfit : String → Misfit) : Document → Option Misfit
  | .text _ | .record _ => none
  | .list items => itemMisfit? ends misfit items
  | d => some (.noItems d.kindName)

/-- What comparing the start of a name with a value meets. -/
def startsMisfit? (name : String) : Document → Option Misfit
  | .text _ => none
  | .list items => itemMisfit? (fun s => Text.startsWith s name) .notStart items
  | d => some (.noStarts d.kindName)

theorem itemMisfit?_texts (ends : String → Bool) (misfit : String → Misfit) (l : List String) :
    itemMisfit? ends misfit (l.map .text) = none := by
  induction l with
  | nil => rfl
  | cons s rest ih => simp [itemMisfit?, ih]

end Document

end SourceFacts
