import SourceFacts.Console.Emoji
import SourceFacts.Console.Parameters
import SourceFacts.Console.Style
import SourceFacts.Console.Styled
import SourceFacts.Order

/-!
# Markup

Texts for the console may hold tags such as `[bold]` and `[/bold]`, which do not show. A tag starts
with a small letter or one of `#`, `/` and `@`; other brackets stand for themselves. A backslash
before a tag makes it plain text, and two backslashes before a tag stand for one.
-/

namespace SourceFacts.Console

/-- A part of a marked-up text. -/
inductive Piece where
  | text (cs : List Char)
  /-- What stands between the brackets of a tag, with the place of the opening bracket. -/
  | tag (position : Nat) (body : List Char)

/-- Why a marked-up text cannot be shown. -/
inductive MarkupError where
  | unmatched (tag : String) (position : Nat)
  | nothingToClose (position : Nat)
  /-- The parameters of an action, and all that is written for it. -/
  | parameters (text written : String) (e : ParameterError)
  /-- A style holds a number that is none. -/
  | badNumber (e : Number.DecimalError)

/-- The report of an error. -/
def MarkupError.message : MarkupError → String
  | .unmatched tag position =>
    s!"closing tag '[{tag}]' at position {position} doesn't match any open tag"
  | .nothingToClose position => s!"closing tag '[/]' at position {position} has nothing to close"
  | .parameters text written e =>
    if e.isFault then s!"error parsing {Text.quoted text} in {Text.quoted written}; {e.message}"
    else s!"error parsing {Text.quoted written}; {e.message}"
  | .badNumber e => e.message

/-- A tag may start with this character. -/
def isTagStart (c : Char) : Bool :=
  ('a' ≤ c && c ≤ 'z') || c == '#' || c == '/' || c == '@'

/-- What stands between the brackets of a tag at the start of a text. -/
def tagAt? : List Char → Option (List Char)
  | '[' :: c :: rest =>
    let body := rest.takeWhile fun d => d != '[' && d != ']'
    if isTagStart c && (rest.drop body.length).head? == some ']' then some (c :: body) else none
  | _ => none

/-- A part that is not empty. -/
def textPiece : List Char → List Piece
  | [] => []
  | cs => [.text cs]

/-- The parts of a text that starts at a position; `before` is the text since the last tag, its
latest character first. -/
def pieces (position : Nat) (before cs : List Char) : List Piece :=
  match cs with
  | [] => textPiece before.reverse
  | c :: rest =>
    let slashes := ((c :: rest).takeWhile (· == '\\')).length
    match tagAt? ((c :: rest).drop slashes) with
    | some body =>
      let used := slashes + body.length + 2
      let shown := textPiece (List.replicate (slashes / 2) '\\')
      let tag :=
        if slashes % 2 = 1 then Piece.text ('[' :: body ++ [']']) else .tag (position + slashes) body
      textPiece before.reverse ++ shown ++ tag :: pieces (position + used) [] (rest.drop (used - 1))
    | none => pieces (position + 1) (c :: before) rest
termination_by cs.length
decreasing_by
  all_goals simp only [List.length_drop, List.length_cons]; omega

/-- A backslash before a bracket that belongs to no tag does not show. -/
def unescaped : List Char → List Char
  | '\\' :: '[' :: cs => '[' :: unescaped cs
  | c :: cs => c :: unescaped cs
  | [] => []

/-- Control characters do not show. -/
def isHidden (c : Char) : Bool :=
  c.toNat == 7 || c.toNat == 8 || c.toNat == 11 || c.toNat == 12 || c.toNat == 13

/-- What a part of a text shows. -/
def shownChars (cs : List Char) : List Char :=
  (withEmoji (unescaped cs)).filter fun c => !isHidden c

/-- An open tag: its normal name, what is written after `=`, and where its text starts. -/
structure OpenTag where
  name : String
  parameters : Option String
  start : Nat

/-- The tag names an action, not a style. -/
def OpenTag.isAction (t : OpenTag) : Bool :=
  Text.startsWith "@" t.name

/-- What is wrong with the parameters of a tag that is closed. -/
def OpenTag.error? (t : OpenTag) : Option MarkupError :=
  match t.parameters with
  | some written =>
    if t.isAction && !written.isEmpty then
      let text := actionParameters (Text.strip written)
      (parameterError? text).map (.parameters text written)
    else none
  | none => none

/-- What is written for the style of a tag. -/
def OpenTag.style (t : OpenTag) : String :=
  match t.parameters with
  | some written => t.name ++ " " ++ written
  | none => t.name

/-- Takes the latest open tag that satisfies a condition. -/
def takeTag? (p : OpenTag → Bool) : List OpenTag → Option (OpenTag × List OpenTag)
  | [] => none
  | t :: rest => if p t then some (t, rest) else (takeTag? p rest).map fun (u, rest) => (u, t :: rest)

/-- The tag that a closing tag closes, and those that stay open, the latest first. -/
def closeTag (opened : List OpenTag) (position : Nat) (body : List Char) :
    Except MarkupError (OpenTag × List OpenTag) := do
  let name := Text.strip (String.ofList ((Text.beforeFirst '=' (String.ofList body)).toList.drop 1))
  if name.isEmpty then
    match opened with
    | [] => throw (.nothingToClose position)
    | t :: rest => return (t, rest)
  else
    let name ← (normalStyle name).mapError .badNumber
    match takeTag? (fun t => t.name == name) opened with
    | some found => return found
    | none => throw (.unmatched (String.ofList body) position)

/-- The tag that an opening tag opens. -/
def openTag (start : Nat) (body : List Char) : Except MarkupError OpenTag := do
  let text := String.ofList body
  let name ← (normalStyle (Text.beforeFirst '=' text)).mapError .badNumber
  let parameters := if body.contains '=' then some (Text.afterFirst '=' text) else none
  return { name, parameters, start }

/-- The stretch of a tag that ends at a place. -/
def OpenTag.stretch (t : OpenTag) (stop : Nat) : Stretch where
  first := t.start
  stop
  style := t.style

/-- The stretch of a tag that is closed at a place. -/
def OpenTag.closedStretch (t : OpenTag) (stop : Nat) : Stretch :=
  if t.isAction then { first := t.start, stop } else t.stretch stop

/-- Adds the parts of a text to what shows already; `opened` are the open tags, the latest first. -/
def addPieces : (shown : Styled) → (opened : List OpenTag) → List Piece → Except MarkupError Styled
  | shown, opened, [] =>
    .ok { shown with spans := shown.spans ++ opened.map (·.stretch shown.chars.length) }
  | shown, opened, .text cs :: rest =>
    addPieces { shown with chars := shown.chars ++ shownChars cs } opened rest
  | shown, opened, .tag position body :: rest => do
    if body.head? == some '/' then
      let (t, opened) ← closeTag opened position body
      match t.error? with
      | some e => throw e
      | none =>
        let span := t.closedStretch shown.chars.length
        addPieces { shown with spans := shown.spans ++ [span] } opened rest
    else
      let t ← openTag shown.chars.length body
      addPieces shown (t :: opened) rest

/-- The text with its stretches by where they start, and of those that start together the one whose
tag was closed later first. -/
def Styled.sorted (t : Styled) : Styled :=
  { t with spans := sortBy (compareOn Stretch.first) t.spans.reverse }

/-- What a marked-up text shows. -/
def readMarkup (markup : String) : Except MarkupError Styled :=
  (addPieces {} [] (pieces 0 [] markup.toList)).map Styled.sorted

/-- Styled lines, or the first number that is none in their styles. -/
def checkStyles (lines : List Styled) : Except MarkupError (List Styled) :=
  match (lines.flatMap Styled.spans).findSome? fun s => styleFault? s.style with
  | some e => .error (.badNumber e)
  | none => .ok lines

end SourceFacts.Console
