import SourceFacts.Console.EmojiTable
import SourceFacts.Text.Blank
import SourceFacts.Text.Case
import SourceFacts.Text.Dotted
import SourceFacts.Text.Hex

/-!
# Emoji by name

A name between colons stands for an emoji, whatever its case. `-text` and `-emoji` after the name
ask for one of its two forms. A name that is not known is left as it is.
-/

namespace SourceFacts.Console

/-- The character with a code point in hexadecimal. -/
def charOfHex (digits : List Char) : Char :=
  Char.ofNat (digits.foldl (fun n c => n * 16 + (Text.hexValue? c).getD 0) 0)

/-- The tones of skin, each with the character that asks for it. -/
def skinTones : List (String × Char) :=
  [("light", Char.ofNat 0x1F3FB), ("medium-light", Char.ofNat 0x1F3FC),
   ("medium", Char.ofNat 0x1F3FD), ("medium-dark", Char.ofNat 0x1F3FE), ("dark", Char.ofNat 0x1F3FF)]

/-- An emoji in each tone of skin. The tone stands after its first character, where a selector of the
form may have stood. -/
def tonedEmoji (name : String) (first : Char) (rest : List Char) : List (String × List Char) :=
  let unselected := if rest.head? = some (Char.ofNat 0xFE0F) then rest.tail else rest
  skinTones.map fun tone => (name ++ "_" ++ tone.1 ++ "_skin_tone", first :: tone.2 :: unselected)

/-- The emoji of a name and, if it has them, its tones. -/
def emojiEntries (name : String) : (codes : List (List Char)) → List (String × List Char)
  | first :: ['*'] :: rest =>
    let shown := rest.map charOfHex
    (name, charOfHex first :: shown) :: tonedEmoji name (charOfHex first) shown
  | codes => [(name, codes.map charOfHex)]

/-- Names with their emoji, from names and emoji in turn. -/
def emojiPairs : List (List Char) → List (String × List Char)
  | name :: codes :: rest =>
    emojiEntries (String.ofList name) (Text.splitChars '-' codes) ++ emojiPairs rest
  | _ => []

/-- The emoji by their names. -/
def emojiTable : List (String × List Char) :=
  emojiRows.flatMap fun row => emojiPairs (Text.splitChars ' ' row.toList)

/-- The form of an emoji that a name asks for. -/
inductive EmojiForm where
  | usual
  | text
  | emoji
deriving DecidableEq

/-- The selector of a form. -/
def EmojiForm.selector : EmojiForm → List Char
  | .usual => []
  | .text => [Char.ofNat 0xFE0E]
  | .emoji => [Char.ofNat 0xFE0F]

/-- A name between colons, its form and how it is written. -/
structure EmojiName where
  name : List Char
  form : EmojiForm
  written : List Char

/-- The name that the text after an opening colon starts with: the shortest one without blanks that
a colon ends, perhaps after a form. -/
def emojiName? : List Char → Option EmojiName
  | [] => none
  | c :: cs =>
    if "-emoji:".toList.isPrefixOf (c :: cs) then some ⟨[], .emoji, "-emoji:".toList⟩
    else if "-text:".toList.isPrefixOf (c :: cs) then some ⟨[], .text, "-text:".toList⟩
    else if c = ':' then some ⟨[], .usual, [':']⟩
    else if Text.isBlank c then none
    else (emojiName? cs).map fun e => { e with name := c :: e.name, written := c :: e.written }

/-- What a name stands for. -/
def EmojiName.shown (e : EmojiName) : List Char :=
  match emojiTable.lookup (Text.lower (String.ofList e.name)) with
  | some chars => chars ++ e.form.selector
  | none => ':' :: e.written

theorem emojiName?_length {cs : List Char} {e : EmojiName} (h : emojiName? cs = some e) :
    0 < e.written.length := by
  cases cs with
  | nil => simp [emojiName?] at h
  | cons c cs =>
    unfold emojiName? at h
    split at h
    · cases h; decide
    · split at h
      · cases h; decide
      · split at h
        · cases h; decide
        · split at h
          · cases h
          · obtain ⟨e', _, rfl⟩ := Option.map_eq_some_iff.1 h
            simp

/-- The text with emoji in place of their names. -/
def withEmoji : List Char → List Char
  | [] => []
  | c :: cs =>
    if c = ':' then
      match h : emojiName? cs with
      | some e =>
        have := emojiName?_length h
        e.shown ++ withEmoji (cs.drop e.written.length)
      | none => c :: withEmoji cs
    else c :: withEmoji cs
termination_by cs => cs.length
decreasing_by all_goals simp only [List.length_drop, List.length_cons]; omega

end SourceFacts.Console
