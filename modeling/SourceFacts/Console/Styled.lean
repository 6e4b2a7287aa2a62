import SourceFacts.Text.Blank
import SourceFacts.Text.Dotted
import SourceFacts.Text.Grapheme

/-!
# Styled texts

A text in which some stretches carry a style. Which style does not matter for how the text is laid
out, but where a stretch starts and ends does: the text is measured from one such place to the next.
-/

namespace SourceFacts.Console

/-- A stretch of a text, by its first place and the place after it, with its style as it is
written. -/
structure Stretch where
  first : Nat
  stop : Nat
  style : String := ""

namespace Stretch

/-- The stretch that many places later. -/
def shift (n : Nat) (s : Stretch) : Stretch :=
  { s with first := s.first + n, stop := s.stop + n }

/-- The part of a stretch among the first `size` places. -/
def cut? (size : Nat) (s : Stretch) : Option Stretch :=
  if s.first < size then some { s with stop := min size s.stop } else none

/-- The part of a stretch between two places, counted from the first of them. -/
def between? (start stop : Nat) (s : Stretch) : Option Stretch :=
  let first := s.first - start
  let last := min s.stop stop - start
  if first < last then some { s with first, stop := last } else none

end Stretch

/-- A text with the stretches that carry a style. -/
structure Styled where
  chars : List Char := []
  spans : List Stretch := []

/-- A number of blanks. -/
def blanks (n : Nat) : List Char :=
  List.replicate n ' '

/-- The columns that some widths take together. -/
def totalWidth (widths : List Nat) : Nat :=
  widths.foldr (· + ·) 0

namespace Styled

/-- The columns that the text takes on one line. -/
def width (t : Styled) : Nat :=
  Text.columns t.chars

/-- Other characters with the same stretches, as far as there are characters for them. -/
def withChars (t : Styled) (chars : List Char) : Styled where
  chars
  spans :=
    if chars.length < t.chars.length then t.spans.filterMap (Stretch.cut? chars.length) else t.spans

/-- The characters from one place to another. -/
def slice (t : Styled) (start stop : Nat) : Styled where
  chars := (t.chars.take stop).drop start
  spans := t.spans.filterMap (Stretch.between? start stop)

/-- The parts between some places. -/
def divide (t : Styled) (places : List Nat) : List Styled :=
  match places with
  | [] => [t]
  | _ => ((0 :: places).zip (places ++ [t.chars.length])).map fun (start, stop) => t.slice start stop

/-- One text after the other. -/
def append (t u : Styled) : Styled where
  chars := t.chars ++ u.chars
  spans := t.spans ++ u.spans.map (Stretch.shift t.chars.length)

/-- All texts, one after the other. -/
def join (l : List Styled) : Styled :=
  l.foldl append {}

/-- The texts between parts of the given lengths, with one character between two parts. -/
def slices (t : Styled) : (start : Nat) → (lengths : List Nat) → List Styled
  | _, [] => []
  | start, n :: rest => t.slice start (start + n) :: t.slices (start + n + 1) rest

/-- The texts between the separators. -/
def splitAt (t : Styled) (sep : Char) : List Styled :=
  if t.chars.contains sep then t.slices 0 ((Text.splitChars sep t.chars).map List.length) else [t]

/-- The text without blanks at its end. -/
def trimEnd (t : Styled) : Styled :=
  t.withChars (Text.trimEnd Text.isBlank t.chars)

/-- The text without the blanks at its end that make it longer than `size` characters. -/
def trimBeyond (size : Nat) (t : Styled) : Styled :=
  let blank := t.chars.length - (Text.trimEnd Text.isBlank t.chars).length
  let excess := t.chars.length - size
  t.withChars (t.chars.take (t.chars.length - min blank excess))

/-- Blanks before the text. -/
def padLeft (n : Nat) (t : Styled) : Styled where
  chars := blanks n ++ t.chars
  spans := t.spans.map (Stretch.shift n)

/-- Blanks after the text. -/
def padRight (n : Nat) (t : Styled) : Styled :=
  { t with chars := t.chars ++ blanks n }

/-- A stretch starts or ends at the place. -/
def isEdge (t : Styled) (place : Nat) : Bool :=
  t.spans.any fun s => s.first == place || s.stop == place

/-- The characters from one edge to the next; `place` is where they start. -/
def segmentsFrom (isEdge : Nat → Bool) : (place : Nat) → List Char → List (List Char)
  | _, [] => []
  | place, c :: cs =>
    match segmentsFrom isEdge (place + 1) cs with
    | [] => [[c]]
    | segment :: rest => if isEdge (place + 1) then [c] :: segment :: rest else (c :: segment) :: rest

/-- The text from one edge of a stretch to the next. -/
def segments (t : Styled) : List (List Char) :=
  segmentsFrom t.isEdge 0 t.chars

end Styled

end SourceFacts.Console
