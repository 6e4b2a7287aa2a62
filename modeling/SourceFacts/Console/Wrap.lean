import SourceFacts.Console.Styled

/-!
# Lines of a given width

A text is broken into lines between its words. A word that is wider than a line is either folded
onto further lines or cut.
-/

namespace SourceFacts.Console

/-- Where a line stands in the room that it has. -/
inductive Justify where
  /-- The line is left as it is. -/
  | none
  | left
  | center
  | right
  /-- Blanks between the words fill every line but the last. -/
  | full
deriving DecidableEq

/-- What happens to a word that is wider than a line. -/
inductive Overflow where
  | fold
  | ellipsis
deriving DecidableEq

/-- The words of a text with the blanks around them and the places where they start. -/
def wordsFrom (start : Nat) (cs : List Char) : List (Nat × List Char) :=
  let before := cs.takeWhile Text.isBlank
  let rest := cs.dropWhile Text.isBlank
  let core := rest.takeWhile fun c => !Text.isBlank c
  let after := (rest.drop core.length).takeWhile Text.isBlank
  let word := before ++ core ++ after
  if h : core = [] then []
  else
    have : cs.length - word.length < cs.length := by
      have h0 : 0 < core.length := List.length_pos_iff.2 h
      have h1 : core.length ≤ rest.length := (List.takeWhile_sublist _).length_le
      have h2 : rest.length ≤ cs.length := (List.dropWhile_sublist _).length_le
      have h3 : word.length = before.length + core.length + after.length := by
        simp only [word, List.length_append]
      omega
    (start, word) :: wordsFrom (start + word.length) (cs.drop word.length)
termination_by cs.length
decreasing_by simpa only [List.length_drop]

/-- Where the lines of a word that is folded start, given where the word starts. -/
def foldPlaces : (start : Nat) → List (List Char) → List Nat
  | _, [] => []
  | start, line :: rest =>
    (if start = 0 then [] else [start]) ++ foldPlaces (start + line.length) rest

/-- The places at which words are broken into lines; `used` are the columns taken on the line so
far. -/
def breaks (width : Nat) (overflow : Overflow) : (used : Nat) → List (Nat × List Char) → List Nat
  | _, [] => []
  | used, (start, word) :: rest =>
    let size := Text.columns (Text.trimEnd Text.isBlank word)
    if used + size ≤ width then breaks width overflow (used + Text.columns word) rest
    else if width < size then
      match overflow with
      | .fold =>
        let lines := Text.chop width word
        let last := (lines.getLast?.map Text.columns).getD used
        foldPlaces start lines ++ breaks width overflow last rest
      | .ellipsis =>
        (if start = 0 then [] else [start]) ++ breaks width overflow (Text.columns word) rest
    else if used = 0 ∨ start = 0 then breaks width overflow used rest
    else start :: breaks width overflow (Text.columns word) rest

namespace Styled

/-- The distance between tab stops. -/
def tabSize : Nat := 8

/-- Puts blanks in place of tabs: the parts of a line, each but perhaps the last ending with a tab,
from a column on. -/
def expandParts : (column : Nat) → List Styled → List Styled
  | _, [] => []
  | column, part :: rest =>
    if part.chars.getLast? = some '\t' then
      let chars := part.chars.dropLast ++ [' ']
      let column := column + Text.columns chars
      let extra := if column % tabSize = 0 then 0 else tabSize - column % tabSize
      let spans := part.spans.map fun s =>
        if chars.length ≤ s.stop then { s with stop := s.stop + extra } else s
      { chars := chars ++ blanks extra, spans } :: expandParts (column + extra) rest
    else part :: expandParts (column + part.width) rest

/-- The places after tabs. -/
def tabPlaces (t : Styled) : List Nat :=
  (t.chars.zipIdx.filter fun (c, _) => c == '\t').map fun (_, i) => i + 1

/-- The line with blanks in place of tabs. -/
def expandTabs (t : Styled) : Styled :=
  match t.tabPlaces with
  | [] => t
  | places => join (expandParts 0 (t.divide places))

/-- The line cut to a width. -/
def truncate (width : Nat) (overflow : Overflow) (t : Styled) : Styled :=
  if t.width ≤ width then t
  else
    match overflow with
    | .fold => t.withChars (Text.fitColumns width t.chars)
    | .ellipsis => t.withChars (Text.fitColumns (width - 1) t.chars ++ ['…'])

/-- The words between blanks; nothing after a blank at the end. -/
def blankWords (t : Styled) : List Styled :=
  let words := t.splitAt ' '
  if t.chars.getLast? = some ' ' then words.dropLast else words

/-- Words with gaps after all but the last of them. -/
def spread : List Styled → List Nat → List Styled
  | word :: words, gap :: gaps => word :: { chars := blanks gap } :: spread words gaps
  | words, _ => words

/-- The gaps between words that fill up a width, the widest last. -/
def gapsFor (width : Nat) (words : List Styled) : List Nat :=
  let count := words.length - 1
  let spare := width - (totalWidth (words.map (·.width)) + count)
  (List.range count).map fun i => 1 + spare / count + if count - 1 - i < spare % count then 1 else 0

/-- The line filled up to a width by blanks between its words. -/
def stretch (width : Nat) (t : Styled) : Styled :=
  let words := t.blankWords
  join (spread words (gapsFor width words))

/-- The line put in its place. -/
def place (justify : Justify) (width : Nat) (overflow : Overflow) (t : Styled) : Styled :=
  match justify with
  | .none | .full => t
  | .left => if t.width < width then t.padRight (width - t.width) else t.truncate width overflow
  | .center =>
    let t := t.trimEnd.truncate width overflow
    let t := t.padLeft ((width - t.width) / 2)
    t.padRight (width - t.width)
  | .right =>
    let t := t.trimEnd.truncate width overflow
    t.padLeft (width - t.width)

/-- The lines put in their places. -/
def placeAll (justify : Justify) (width : Nat) (overflow : Overflow) (l : List Styled) :
    List Styled :=
  if justify = .full then l.dropLast.map (stretch width) ++ l.getLast?.toList
  else l.map (place justify width overflow)

/-- The lines of a text. -/
def wrap (t : Styled) (width : Nat) (justify : Justify) (overflow : Overflow) : List Styled :=
  (t.splitAt '\n').flatMap fun line =>
    let line := line.expandTabs
    let parts := line.divide (breaks width overflow 0 (wordsFrom 0 line.chars))
    let placed := placeAll justify width overflow (parts.map (trimBeyond width))
    placed.map (truncate width overflow)

end Styled

end SourceFacts.Console
