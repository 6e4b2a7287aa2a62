import SourceFacts.Order
import SourceFacts.Project.Disk
import SourceFacts.Settings
import SourceFacts.Text.Glob

/-!
# Discovery

The Python files below a directory, in the order of the parts of their paths. A path is left out
when one of its parts below the directory fits an exclusion pattern.
-/

namespace SourceFacts

mutual

/-- The names that lead to everything below an entry. -/
def Entry.namesBelow : Entry → List (List String)
  | .file _ => []
  | .directory entries => Entry.namesIn entries

/-- The names that lead to everything in and below some entries. -/
def Entry.namesIn : List (String × Entry) → List (List String)
  | [] => []
  | (name, e) :: rest =>
    [name] :: (Entry.namesBelow e).map (name :: ·) ++ Entry.namesIn rest

end

/-- The last of the names is that of a Python file. -/
def isPythonName (names : List String) : Bool :=
  names.getLast?.any (Text.endsWith ".py")

/-- One of the names fits one of the patterns. -/
def isExcluded (patterns names : List String) : Bool :=
  names.any fun name => patterns.any fun pattern => Text.Glob.accepts pattern name

/-- The Python files at or below a path; a file is taken whatever its name. -/
def Disk.discover (d : Disk) (root : Path) (patterns : List String) :
    Except DiskError (List Path) := do
  match ← d.lookup root with
  | some (.file _) => return [root]
  | some (.directory entries) =>
    let found := (Entry.namesIn entries).filter fun names =>
      isPythonName names && !isExcluded patterns names
    return (sortBy compare found).map fun names => { root with parts := root.parts ++ names }
  | none => return []

/-- What is left out of a discovery. -/
structure Exclusion where
  patterns : List String
  /-- What comparing the parts of paths with the patterns meets. -/
  misfit? : List (List String) → Option Misfit := fun _ => none

/-- The exclusion that a value gives. -/
def Exclusion.ofDocument (d : Document) : Exclusion where
  patterns := (Words.ofDocument d).items
  misfit? := Settings.excludeMisfit? d

/-- What a discovery meets; for a file the patterns are not used. -/
def Disk.discoveryMisfit? (d : Disk) (root : Path) (e : Exclusion) : Option Misfit :=
  match d.lookup root with
  | .ok (some (.file _)) => none
  | .ok (some (.directory entries)) => e.misfit? ((Entry.namesIn entries).filter isPythonName)
  | _ => e.misfit? []

/-- The patterns to exclude: the usual ones but for those to keep, and further ones. -/
def exclusions (exclude keep : List String) : List String :=
  let usual := ({} : Config).excludePatterns.items.filter fun p => !keep.contains p
  exclude.foldl (fun done p => if done.contains p then done else done ++ [p]) usual

end SourceFacts
