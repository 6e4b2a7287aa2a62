import SourceFacts.Text.Dotted
import SourceFacts.Text.Quoted

/-!
# Paths

A path has a root, or none, and parts. Empty parts and `.` are dropped when a path is read, `..`
is kept. Exactly two slashes at the start are a root of their own.
-/

namespace SourceFacts

/-- Where a path starts. -/
inductive PathRoot where
  | relative
  | slash
  | doubleSlash
deriving DecidableEq

/-- How a root is written. -/
def PathRoot.text : PathRoot → String
  | .relative => ""
  | .slash => "/"
  | .doubleSlash => "//"

/-- A path. -/
structure Path where
  root : PathRoot := .relative
  parts : List String := []
deriving DecidableEq

/-- Why a path cannot be used. -/
inductive PathError where
  | emptyName (text : String)
  | nullByte

/-- The report of an error. -/
def PathError.message : PathError → String
  | .emptyName text => s!"PurePosixPath({Text.quoted text}) has an empty name"
  | .nullByte => "embedded null byte"

namespace Path

/-- The text holds a null character, which no name on a disk does. -/
def hasNull (text : String) : Bool :=
  text.toList.contains '\x00'

/-- The root at the start of a text. -/
def rootOf (cs : List Char) : PathRoot :=
  match (cs.takeWhile (· == '/')).length with
  | 0 => .relative
  | 2 => .doubleSlash
  | _ => .slash

/-- Reads a path. -/
def parse (s : String) : Path where
  root := rootOf s.toList
  parts := (Text.split '/' s).filter fun part => part != "" && part != "."

/-- Writes a path. -/
def text (p : Path) : String :=
  if p.root = .relative ∧ p.parts = [] then "."
  else p.root.text ++ Text.joinWith "/" p.parts

/-- The last part; empty without parts. -/
def name (p : Path) : String :=
  p.parts.getLast?.getD ""

/-- A name without what stands after its last dot; a dot at either end does not count. -/
def stemOf (name : String) : String :=
  let stem := Text.beforeLast '.' name
  let tail := Text.afterLast '.' name
  if Text.isDotted name && !stem.isEmpty && !tail.isEmpty then stem else name

/-- The parts, with the root as the first of them if there is one. -/
def allParts (p : Path) : List String :=
  match p.root with
  | .relative => p.parts
  | r => r.text :: p.parts

/-- Goes on from a path; a rooted path starts anew. -/
def join (p q : Path) : Path :=
  match q.root with
  | .relative => { p with parts := p.parts ++ q.parts }
  | _ => q

/-- The path without its last part. -/
def parent (p : Path) : Path :=
  { p with parts := p.parts.dropLast }

/-- The path from another one on, if it starts with that. -/
def relativeTo? (p base : Path) : Option Path :=
  if p.root = base.root ∧ base.parts.isPrefixOf p.parts then
    some { parts := p.parts.drop base.parts.length }
  else none

/-- How a path is shown: from a base on, if it starts with that. -/
def shownFrom (p : Path) (base : Option Path) : String :=
  ((base.bind p.relativeTo?).getD p).text

/-- The parts that do not name anything. -/
def emptyParts : List String := ["", ".", "..", "/"]

/-- The dotted name of the module in a file. -/
def moduleName (p : Path) : Except PathError String :=
  if p.name.isEmpty then .error (.emptyName p.text)
  else
    let parts := { p with parts := p.parts.dropLast ++ [stemOf p.name] : Path }.allParts.filter
      fun part => !emptyParts.contains part
    let parts := if parts.getLast? = some "__init__" then parts.dropLast else parts
    if parts.isEmpty then .ok (stemOf p.name) else .ok (Text.joinWith "." parts)

end Path

/-- The dotted name of the module in the file at a path. -/
def moduleName (path : String) : Except PathError String :=
  (Path.parse path).moduleName

end SourceFacts
