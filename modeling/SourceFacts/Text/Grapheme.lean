import SourceFacts.Text.Width

/-!
# Characters as they are seen

A mark, a joined character or a selector belongs to the character before it. Texts are cut between
such groups, never inside one.
-/

namespace SourceFacts.Text

/-- A character with what belongs to it, and the columns that it takes. -/
structure Grapheme where
  chars : List Char
  width : Nat

/-- Adds characters to the latest group, which stands first. -/
def attach (more : List Char) (extra : Nat) : List Grapheme → List Grapheme
  | [] => [⟨more, extra⟩]
  | g :: done => ⟨g.chars ++ more, g.width + extra⟩ :: done

/-- The groups of a text; `done` are those before it, the latest first, and `last` is the latest
character with a column of its own to which a selector may still apply. -/
def graphemesAfter (last : Option Char) (done : List Grapheme) : List Char → List Grapheme
  | [] => done.reverse
  | [c] =>
    let width := if c = joiner then 0 else if c = emojiSelector then selectedWidth last else charWidth c
    if width = 0 || c = emojiSelector then (attach [c] width done).reverse
    else (⟨[c], width⟩ :: done).reverse
  | c :: d :: cs =>
    if c = joiner then
      if done.isEmpty then graphemesAfter last (attach [c] 0 done) (d :: cs)
      else graphemesAfter last (attach [c, d] 0 done) cs
    else if c = emojiSelector then
      let extra := selectedWidth last
      graphemesAfter (if extra = 0 then last else none) (attach [c] extra done) (d :: cs)
    else if charWidth c = 0 then graphemesAfter last (attach [c] 0 done) (d :: cs)
    else graphemesAfter (some c) (⟨[c], charWidth c⟩ :: done) (d :: cs)

/-- The groups of a text. -/
def graphemes (cs : List Char) : List Grapheme :=
  graphemesAfter none [] cs

/-- The start of a text with a number of columns; half of a wide character is a blank. -/
def takeColumns : (room : Nat) → List Grapheme → List Char
  | _, [] => []
  | room, g :: rest =>
    if room = 0 then []
    else if g.width ≤ room then g.chars ++ takeColumns (room - g.width) rest
    else [' ']

/-- The text cut or filled up to a number of columns. -/
def fitColumns (total : Nat) (cs : List Char) : List Char :=
  if total = 0 then []
  else if columns cs ≤ total then cs ++ List.replicate (total - columns cs) ' '
  else takeColumns total (graphemes cs)

/-- The lines of a text cut at a number of columns; `line` is the one begun, of the given size. -/
def chopAfter (width : Nat) : (line : List Char) → (size : Nat) → List Grapheme → List (List Char)
  | line, size, [] => if size = 0 then [] else [line]
  | line, size, g :: rest =>
    if width < size + g.width then line :: chopAfter width g.chars g.width rest
    else chopAfter width (line ++ g.chars) (size + g.width) rest

/-- The lines of a text cut at a number of columns. -/
def chop (width : Nat) (cs : List Char) : List (List Char) :=
  chopAfter width [] 0 (graphemes cs)

end SourceFacts.Text
