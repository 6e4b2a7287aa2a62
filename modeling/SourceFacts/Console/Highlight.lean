import SourceFacts.Console.Styled
import SourceFacts.Text.Hex
import SourceFacts.Text.Numeric
import SourceFacts.Text.Pattern

/-!
# Highlights

Where a line of text is printed, numbers, brackets, quoted texts, paths and the like stand out. Each
of them is a stretch with a style of its own, so it counts when the line is measured.
-/

namespace SourceFacts.Console

open SourceFacts.Text
open SourceFacts.Text.Pattern (sequence choice char word maybe any atLeastOne)

namespace Highlight

/-- A decimal digit of the Latin script. -/
def digit : Pattern := .one Char.isDigit

/-- A decimal digit of any script. -/
def anyDigit : Pattern := .one fun c => (decimalValue? c).isSome

/-- A hexadecimal digit. -/
def hexDigit : Pattern := .one fun c => (hexValue? c).isSome

/-- A character of a word. -/
def wordChar : Pattern := .one isWordChar

/-- A character of a word or one of a few others. -/
def wordOr (others : String) : Pattern :=
  .one fun c => isWordChar c || others.toList.contains c

/-- A number of repetitions, within bounds. -/
def times (least most : Nat) (p : Pattern) : Pattern :=
  .many least (some most) true p

/-- The character is one of a word, if there is one. -/
def inWord : Option Char → Bool
  | some c => isWordChar c
  | none => false

/-- A word starts or ends here. -/
def edge : Pattern :=
  .here fun before after => inWord before != inWord after

/-- No word starts or ends here. -/
def noEdge : Pattern :=
  .here fun before after => inWord before == inWord after

/-- No word goes on here. -/
def notInWord : Pattern :=
  .here fun before _ => !inWord before

/-- A tag in pointed brackets. -/
def tag : Pattern :=
  sequence [.mark (char '<'), .mark (any (wordOr "-.:|")), .mark (any (.one fun _ => true)),
    .mark (char '>')]

/-- A name and its value. -/
def assignment : Pattern :=
  let quote := maybe (char '"')
  sequence [.mark (times 1 50 wordChar), char '=',
    maybe (.mark (sequence [quote, atLeastOne wordChar, quote]))]

/-- A bracket. -/
def bracket : Pattern :=
  .mark (.one fun c => "[]\x7b\x7d()".toList.contains c)

/-- An address of four numbers. -/
def shortAddress : Pattern :=
  let number := times 1 3 digit
  .mark (sequence [number, char '.', number, char '.', number, char '.', number])

/-- An address of up to eight groups. -/
def longAddress : Pattern :=
  let group := times 1 4 hexDigit
  .mark (.both (times 1 7 (sequence [group, char ':', maybe (char ':')])) group)

/-- The number of a device: pairs of digits or groups of four. -/
def device (pairs groups : Nat) : Pattern :=
  let pair := times 1 2 hexDigit
  let group := times 4 4 hexDigit
  .mark (choice
    [.both (times pairs pairs (.both pair (char '-'))) pair,
     .both (times pairs pairs (.both pair (char ':'))) pair]
    (.both (times groups groups (.both group (char '.'))) group))

/-- A number in five groups. -/
def identifier : Pattern :=
  let group := times 4 4 hexDigit
  .mark (sequence [times 8 8 hexDigit, char '-', group, char '-', group, char '-', group, char '-',
    times 12 12 hexDigit])

/-- A name before a bracket. -/
def call : Pattern :=
  .both (.mark (.many 0 none false (wordOr "."))) (char '(')

/-- A word of its own. -/
def constant (s : String) : Pattern :=
  sequence [edge, .mark (word s), edge]

/-- The mark, the sign and the start of an exponent's digits. -/
def exponentStart : Pattern :=
  .both (char 'e') (maybe (.one fun c => c == '-' || c == '+'))

/-- Digits with a point among them. -/
def pointed : Pattern :=
  sequence [atLeastOne digit, maybe (char '.'), any digit]

/-- A complex number. -/
def complexNumber : Pattern :=
  let few := .many 1 none false anyDigit
  .mark (sequence [notInWord, maybe (char '-'), pointed, maybe (.both exponentStart few),
    maybe (sequence [.one (fun c => c == '-' || c == '+'), pointed,
      maybe (.both exponentStart (atLeastOne anyDigit))]),
    char 'j'])

/-- A number. -/
def number : Pattern :=
  let few := .many 1 none false anyDigit
  .mark (.either
    (sequence [notInWord, maybe (char '-'), pointed, maybe (.both exponentStart few), edge])
    (.both (word "0x") (any hexDigit)))

/-- A path, and the name at its end. -/
def path : Pattern :=
  let part := wordOr "-.+"
  sequence [.mark (sequence [noEdge, any (.both (char '/') (atLeastOne part)), char '/']),
    maybe (.mark (any part))]

/-- A text in quotes. -/
def quotedText : Pattern :=
  let between (quote : String) : Pattern :=
    sequence [maybe (char 'b'), word quote, .many 0 none false (.one (· != '\n')),
      .here (fun before _ => before != some '\\'), word quote]
  .both (.here fun before _ => !inWord before && before != some '\\')
    (.mark (choice [between "'''", between "'", between "\"\"\""] (between "\"")))

/-- An address of a document. -/
def address : Pattern :=
  let others := "-$_+!`(),.?/;:&=%#~@".toList
  .mark (sequence
    [choice [word "file", word "https", word "http", word "ws"] (word "wss"), word "://",
     any (.one fun c => c.isAlphanum || others.contains c)])

/-- The patterns, in the order in which they are applied. Those that end with a character are left
out where the text does not have it. -/
def patterns (cs : List Char) : List Pattern :=
  let ending (c : Char) (p : Pattern) : List Pattern := if cs.contains c then [p] else []
  ending '>' tag ++
    [assignment, bracket,
     choice
      ([shortAddress, longAddress, device 7 3, device 5 2, identifier] ++ ending '(' call ++
        [constant "True", constant "False", constant "None", .mark (word "..."), complexNumber,
         number, path, quotedText])
      address]

end Highlight

/-- The stretches of a text that stand out. -/
def highlights (cs : List Char) : List Stretch :=
  ((Highlight.patterns cs).flatMap (·.find cs)).filterMap fun (first, stop) =>
    if first < stop then some { first, stop } else none

/-- The text with what stands out in it. -/
def Styled.highlighted (t : Styled) : Styled :=
  { t with spans := highlights t.chars ++ t.spans }

end SourceFacts.Console
