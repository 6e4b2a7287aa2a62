/-!
# Dotted names

Cutting a text at the first or at the last occurrence of a character, and the parts of names such
as `package.module.name`.
-/

namespace SourceFacts.Text

/-- What stands before the first `sep`; everything when there is none. -/
def beforeFirst (sep : Char) (s : String) : String :=
  String.ofList (s.toList.takeWhile (· != sep))

/-- What stands after the first `sep`; nothing when there is none. -/
def afterFirst (sep : Char) (s : String) : String :=
  String.ofList ((s.toList.dropWhile (· != sep)).drop 1)

/-- What stands before the last `sep`; nothing when there is none. -/
def beforeLast (sep : Char) (s : String) : String :=
  String.ofList ((s.toList.reverse.dropWhile (· != sep)).drop 1).reverse

/-- What stands after the last `sep`; everything when there is none. -/
def afterLast (sep : Char) (s : String) : String :=
  String.ofList (s.toList.reverse.takeWhile (· != sep)).reverse

/-- The name has more than one part. -/
def isDotted (name : String) : Bool :=
  name.toList.contains '.'

/-- The first part of a dotted name. -/
def firstPart (name : String) : String :=
  beforeFirst '.' name

/-- A dotted name without its first part. -/
def laterParts (name : String) : String :=
  afterFirst '.' name

/-- The last part of a dotted name. -/
def lastPart (name : String) : String :=
  afterLast '.' name

/-- A dotted name without its last part. -/
def earlierParts (name : String) : String :=
  beforeLast '.' name

/-- The dotted name is the given one or stands below it. -/
def isWithin (top name : String) : Bool :=
  name == top || (top ++ ".").toList.isPrefixOf name.toList

/-- The text between separators. -/
def splitChars (sep : Char) : List Char → List (List Char)
  | [] => [[]]
  | c :: cs =>
    match splitChars sep cs with
    | [] => [[c]]
    | part :: parts => if c = sep then [] :: part :: parts else (c :: part) :: parts

/-- The texts between the separators of `s`, one more than there are separators. -/
def split (sep : Char) (s : String) : List String :=
  (splitChars sep s.toList).map String.ofList

/-- The text begins with `start`. -/
def startsWith (start s : String) : Bool :=
  start.toList.isPrefixOf s.toList

/-- The text ends with `tail`. -/
def endsWith (tail s : String) : Bool :=
  tail.toList.isSuffixOf s.toList

/-- The texts joined with `sep` between them. -/
def joinWith (sep : String) : List String → String
  | [] => ""
  | [s] => s
  | s :: rest => s ++ sep ++ joinWith sep rest

end SourceFacts.Text
