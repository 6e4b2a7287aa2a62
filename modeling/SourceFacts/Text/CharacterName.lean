import SourceFacts.Text.CharacterNameTable
import SourceFacts.Text.Hex
import SourceFacts.Text.Ranges

/-!
# Names of characters

Most names of characters are listed. The names of unified ideographs end with their code point, and
those of Hangul syllables with the sounds of the syllable.
-/

namespace SourceFacts.Text

/-! ## Listed names -/

/-- The text with the known signs written out. -/
def writtenOut (known : List (Char × List Char)) (cs : List Char) : List Char :=
  cs.flatMap fun c => (known.lookup c).getD [c]

/-- The signs with all that they stand for. -/
def knownSigns : List (Char × String) → List (Char × List Char)
  | [] => []
  | (sign, run) :: signs =>
    let known := knownSigns signs
    (sign, writtenOut known run.toList) :: known

/-- The entries of a row: how many characters of the name before are dropped, and the characters that
follow the others. What was read of the first entry is `dropped` and `rest`, its latest character
first. -/
def nameEntries : (dropped : Nat) → (rest : List Char) → List Char → List (Nat × List Char)
  | dropped, rest, [] => [(dropped, rest.reverse)]
  | dropped, rest, c :: cs =>
    if c.isLower then
      let digit := c.toNat - 'a'.toNat
      if rest.isEmpty then nameEntries (dropped * 26 + digit) [] cs
      else (dropped, rest.reverse) :: nameEntries digit [] cs
    else nameEntries dropped (c :: rest) cs

/-- The names of entries after a name. -/
def namesOf : (before : List Char) → List (Nat × List Char) → List (List Char)
  | _, [] => []
  | before, (dropped, rest) :: more =>
    let this := before.take (before.length - dropped) ++ rest
    this :: namesOf this more

/-- The name stands in rows after a name. -/
def isInRows (known : List (Char × List Char)) (name : List Char) :
    (before : List Char) → List String → Bool
  | _, [] => false
  | before, row :: rows =>
    let names := namesOf before (nameEntries 0 [] (writtenOut known row.toList))
    names.contains name || isInRows known name (names.getLastD before) rows

/-- The name is listed. -/
def isListedName (name : List Char) : Bool :=
  isInRows (knownSigns nameSigns) (name.map Char.toUpper) [] characterNameRows

/-! ## Names by rule -/

/-- The code points of unified ideographs. -/
def ideographRanges : List CodeRange :=
  [(0x3400, 0x4DBF), (0x4E00, 0x9FFF), (0x20000, 0x2A6DF), (0x2A700, 0x2B738), (0x2B740, 0x2B81D),
   (0x2B820, 0x2CEA1), (0x2CEB0, 0x2EBE0), (0x30000, 0x3134A)]

/-- The text is the code point of a unified ideograph in capital digits. -/
def isIdeographCode (cs : List Char) : Bool :=
  (cs.length == 4 || cs.length == 5) &&
    cs.all (fun c => (hexValue? c).isSome && !c.isLower) &&
    inRanges ideographRanges (cs.foldl (fun n c => n * 16 + (hexValue? c).getD 0) 0)

/-- The sounds at the start of a syllable, in its middle and at its end. -/
def syllableParts : List (List String) :=
  [["G", "GG", "N", "D", "DD", "R", "M", "B", "BB", "S", "SS", "", "J", "JJ", "C", "K", "T", "P", "H"],
   ["A", "AE", "YA", "YAE", "EO", "E", "YEO", "YE", "O", "WA", "WAE", "OE", "YO", "U", "WEO", "WE",
    "WI", "YU", "EU", "YI", "I"],
   ["", "G", "GG", "GS", "N", "NJ", "NH", "D", "L", "LG", "LM", "LB", "LS", "LT", "LP", "LH", "M", "B",
    "BS", "S", "SS", "NG", "J", "C", "K", "T", "P", "H"]]

/-- What follows the longest of some sounds at the start of a text. -/
def afterSound? (sounds : List String) (cs : List Char) : Option (List Char) :=
  let fitting := sounds.filter fun s => s.toList.isPrefixOf cs
  match fitting with
  | [] => none
  | _ => some (cs.drop (fitting.foldl (fun n s => max n s.length) 0))

/-- The text spells a syllable. -/
def isSyllable (cs : List Char) : Bool :=
  syllableParts.foldl (fun rest sounds => rest.bind (afterSound? sounds)) (some cs) == some []

/-- The text is the name of a character. In listed names small letters count as capital ones. -/
def isCharacterName (name : List Char) : Bool :=
  let syllable := "HANGUL SYLLABLE ".toList
  let ideograph := "CJK UNIFIED IDEOGRAPH-".toList
  if syllable.isPrefixOf name then isSyllable (name.drop syllable.length)
  else if ideograph.isPrefixOf name then isIdeographCode (name.drop ideograph.length)
  else isListedName name

end SourceFacts.Text
