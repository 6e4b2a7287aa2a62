import SourceFacts.Text.Ranges

/-!
# White space

The characters that count as white space, and texts without them at their ends.
-/

namespace SourceFacts.Text

/-- The code points of white space. -/
def blankRanges : List CodeRange :=
  [(9, 13), (28, 32), (133, 133), (160, 160), (5760, 5760), (8192, 8202), (8232, 8233),
   (8239, 8239), (8287, 8287), (12288, 12288)]

/-- The character is white space. -/
def isBlank (c : Char) : Bool :=
  inRanges blankRanges c.toNat

/-- The characters without those of a class at the end. -/
def trimEnd (p : Char → Bool) (cs : List Char) : List Char :=
  (cs.reverse.dropWhile p).reverse

/-- The characters without those of a class at both ends. -/
def trimBoth (p : Char → Bool) (cs : List Char) : List Char :=
  trimEnd p (cs.dropWhile p)

/-- The text without white space at its ends. -/
def strip (s : String) : String :=
  String.ofList (trimBoth isBlank s.toList)

end SourceFacts.Text
