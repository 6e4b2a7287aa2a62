import SourceFacts.Path
import SourceFacts.Syntax.Node
import SourceFacts.Text.Utf8

/-!
# Files and directories

A disk is a tree of directories with a current directory. A file comes with what the parser makes
of it. A path is followed part by part, so `..` after a file is an error.
-/

namespace SourceFacts

/-- What the parser makes of a file. -/
inductive Parsed where
  | tree (root : Option Node)
  /-- The parser broke down. -/
  | failed (message : String)
  /-- There is no parser. -/
  | unavailable (message : String)

/-- A file. -/
structure FileContent where
  bytes : List UInt8 := []
  parsed : Parsed := .tree none

/-- What a name in a directory stands for. -/
inductive Entry where
  | file (content : FileContent)
  | directory (entries : List (String × Entry))

/-- Why the disk refuses something. -/
inductive DiskCause where
  | notFound
  | exists
  | notDirectory
  | isDirectory
  | nameTooLong
deriving DecidableEq

/-- The number of a cause. -/
def DiskCause.number : DiskCause → Nat
  | .notFound => 2
  | .exists => 17
  | .notDirectory => 20
  | .isDirectory => 21
  | .nameTooLong => 36

/-- A cause in words. -/
def DiskCause.text : DiskCause → String
  | .notFound => "No such file or directory"
  | .exists => "File exists"
  | .notDirectory => "Not a directory"
  | .isDirectory => "Is a directory"
  | .nameTooLong => "File name too long"

/-- A refusal, with the path that was asked for. -/
structure DiskError where
  cause : DiskCause
  path : String

/-- The report of an error. -/
def DiskError.message (e : DiskError) : String :=
  s!"[Errno {e.cause.number}] {e.cause.text}: {Text.quoted e.path}"

/-- A tree of directories with a current directory. -/
structure Disk where
  top : Entry := .directory []
  /-- The names that lead to the current directory. -/
  here : List String := []

namespace Entry

/-- The most bytes that a name may have. -/
def maxNameBytes : Nat := 255

/-- Follows names downwards; `above` are the directories passed on the way, the nearest first. -/
def follow : (above : List Entry) → Entry → List String → Except DiskCause Entry
  | _, e, [] => .ok e
  | _, .file _, _ :: _ => .error .notDirectory
  | above, .directory entries, name :: rest =>
    if name.utf8ByteSize > maxNameBytes then .error .nameTooLong
    else if name = ".." then
      match above with
      | up :: above => follow above up rest
      | [] => follow [] (.directory entries) rest
    else
      match entries.lookup name with
      | some e => follow (.directory entries :: above) e rest
      | none => .error .notFound

/-- Puts something at the end of a list of names, in directories that are made where they lack. -/
def put : Entry → List String → (new : Entry) → Entry
  | _, [], new => new
  | .file _, name :: rest, new => .directory [(name, put (.directory []) rest new)]
  | .directory entries, name :: rest, new =>
    let inner := (entries.lookup name).getD (.directory [])
    .directory (entries.filter (fun e => e.1 != name) ++ [(name, put inner rest new)])

end Entry

namespace Disk

/-- The most bytes that a path may have. -/
def maxPathBytes : Nat := 4095

/-- The names that lead to a path from the top. -/
def namesTo (d : Disk) (p : Path) : List String :=
  match p.root with
  | .relative => d.here ++ p.parts
  | _ => p.parts

/-- What is at a path. -/
def find (d : Disk) (p : Path) : Except DiskError Entry :=
  let cause : Except DiskCause Entry :=
    if Path.hasNull p.text then .error .notFound
    else if p.text.utf8ByteSize > maxPathBytes then .error .nameTooLong
    else d.top.follow [] (d.namesTo p)
  cause.mapError fun cause => ⟨cause, p.text⟩

/-- What is at a path, if there is something. Only a name that is too long is an error. -/
def lookup (d : Disk) (p : Path) : Except DiskError (Option Entry) :=
  match d.find p with
  | .ok e => .ok (some e)
  | .error e => if e.cause = .nameTooLong then .error e else .ok none

/-- There is a file at the path. -/
def isFile (d : Disk) (p : Path) : Bool :=
  match d.find p with
  | .ok (.file _) => true
  | _ => false

/-- There is a directory at the path. -/
def isDirectory (d : Disk) (p : Path) : Bool :=
  match d.find p with
  | .ok (.directory _) => true
  | _ => false

/-- The file at a path. -/
def read (d : Disk) (p : Path) : Except DiskError FileContent :=
  match d.find p with
  | .ok (.file content) => .ok content
  | .ok (.directory _) => .error ⟨.isDirectory, p.text⟩
  | .error e => .error e

/-- What is at a path as it is written. An empty text is no path, and a slash at the end asks for a
directory. -/
def findText? (d : Disk) (text : String) : Option Entry :=
  if text.isEmpty then none
  else
    match d.find (Path.parse text) with
    | .ok (.file content) =>
      if Text.endsWith "/" text || Text.endsWith "/." text then none else some (.file content)
    | .ok e => some e
    | .error _ => none

/-- The names without `..`, each of which takes back the name before it. -/
def normalNames (names : List String) : List String :=
  (names.foldl (fun done name => if name = ".." then done.drop 1 else name :: done) []).reverse

/-- The path from the top, without `..`. -/
def absolute (d : Disk) (p : Path) : Path where
  root := match p.root with
    | .relative => .slash
    | r => r
  parts := normalNames (d.namesTo p)

/-- The disk with a file or directory at a path. -/
def put (d : Disk) (p : Path) (e : Entry) : Disk :=
  { d with top := d.top.put (normalNames (d.namesTo p)) e }

/-- Writes a file; its directory must be there. -/
def write (d : Disk) (p : Path) (content : FileContent) : Except DiskError Disk :=
  match d.find p with
  | .ok (.directory _) => .error ⟨.isDirectory, p.text⟩
  | .ok (.file _) => .ok (d.put p (.file content))
  | .error e =>
    match e.cause, d.find p.parent with
    | .notFound, .ok (.directory _) => .ok (d.put p (.file content))
    | _, _ => .error e

/-- Makes a directory in one that is there. -/
def makeDirectory (d : Disk) (p : Path) : Except DiskError Disk :=
  match d.find p with
  | .ok _ => .error ⟨.exists, p.text⟩
  | .error e =>
    match e.cause, d.find p.parent with
    | .notFound, .ok (.directory _) => .ok (d.put p (.directory []))
    | .notFound, .ok (.file _) => .error ⟨.notDirectory, p.text⟩
    | _, _ => .error e

/-- The disk after directories were made, with their paths, the latest first, and what kept others
from being made. -/
structure Made where
  disk : Disk
  paths : List Path := []
  error? : Option DiskError := none

/-- Makes a directory; one that is there already is no error. -/
def Made.step (m : Made) (p : Path) : Made :=
  match m.disk.makeDirectory p with
  | .ok disk => { m with disk, paths := p :: m.paths }
  | .error e => if m.disk.isDirectory p then m else { m with error? := some e }

/-- Makes a directory and those above it that lack; `upwards` are the names of its path from the
last one on. -/
def makeUpwards (d : Disk) (root : PathRoot) (upwards : List String) : Made :=
  let p : Path := { root, parts := upwards.reverse }
  let made := ({ disk := d } : Made).step p
  match made.error?, upwards with
  | some e, _ :: above =>
    if e.cause = .notFound then
      let m := makeUpwards d root above
      if m.error?.isSome then m else m.step p
    else made
  | _, _ => made
termination_by upwards.length

/-- Makes a directory and those above it that lack. A refusal is reported for the path at which it
arises. -/
def makeDirectories (d : Disk) (p : Path) : Made :=
  makeUpwards d p.root p.parts.reverse

end Disk

end SourceFacts
