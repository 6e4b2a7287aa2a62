import SourceFacts.Term.Escape
import SourceFacts.Term.Form

/-!
# Texts and templates

Texts that stand one after the other are one text. A text with the letter `f` before its quotes is a
template: terms stand in it between braces, and they are read on their own.
-/

namespace SourceFacts.Term

/-- A text as it is written. -/
structure WrittenText where
  isRaw : Bool
  isBytes : Bool
  isTemplate : Bool
  body : List Char

/-- The parts of a text's token. -/
def WrittenText.ofChars (cs : List Char) : WrittenText :=
  let letters := (cs.takeWhile Char.isAlpha).map Char.toLower
  let quoted := cs.dropWhile Char.isAlpha
  let isLong := match quoted with
    | a :: b :: c :: _ :: _ :: _ :: _ => a == b && b == c
    | _ => false
  let size := if isLong then 3 else 1
  { isRaw := letters.contains 'r'
    isBytes := letters.contains 'b'
    isTemplate := letters.contains 'f'
    body := (quoted.drop size).take (quoted.length - 2 * size) }

/-- What is wrong with a text that is no template. -/
def WrittenText.fault? (t : WrittenText) : Option Fault :=
  if t.isBytes then
    if t.body.any (128 ≤ ·.toNat) then some .foreignByte
    else if t.isRaw then none
    else bytesFault? 0 t.body
  else if t.isRaw then none
  else textFault? t.body

/-! ## Templates -/

/-- Characters up to and including a closing brace, and what follows. -/
def throughBrace : List Char → List Char × List Char
  | [] => ([], [])
  | c :: cs =>
    if c = '\x7d' then ([c], cs)
    else
      let (taken, rest) := throughBrace cs
      (c :: taken, rest)

/-- How the plain part of a template ends. -/
inductive PlainEnd where
  /-- At the end of the template or at a brace that stands for itself. -/
  | here
  /-- After a doubled brace, which stands for one. -/
  | doubled

/-- The plain part at the start of a template, its latest character first, how it ends, and what
follows; braces are doubled only outside of terms. -/
def plainPart (isRaw isOuter : Bool) (fuel : Nat) (done cs : List Char) :
    Except Fault (List Char × PlainEnd × List Char) :=
  let atBrace (done : List Char) (c : Char) (rest : List Char) :
      Except Fault (List Char × PlainEnd × List Char) :=
    if isOuter && rest.head? == some c then .ok (c :: done, .doubled, rest.drop 1)
    else if isOuter && c = '\x7d' then .error .templateSingleBrace
    else .ok (done, .here, c :: rest)
  match fuel, cs with
  | 0, _ => .ok (done, .here, cs)
  | _, [] => .ok (done, .here, [])
  | fuel + 1, c :: rest =>
    match !isRaw && c == '\\', rest with
    | true, 'N' :: more =>
      match more with
      | '\x7b' :: name =>
        let (taken, rest) := throughBrace name
        plainPart isRaw isOuter fuel (taken.reverse ++ '\x7b' :: 'N' :: c :: done) rest
      | d :: rest => plainPart isRaw isOuter fuel (d :: 'N' :: c :: done) rest
      | [] => .ok ('N' :: c :: done, .here, [])
    | true, d :: more =>
      if d = '\x7b' || d = '\x7d' then atBrace (c :: done) d more
      else plainPart isRaw isOuter fuel (d :: c :: done) more
    | _, _ =>
      if c = '\x7b' || c = '\x7d' then atBrace done c rest
      else plainPart isRaw isOuter fuel (c :: done) rest

/-- The quotes of a text inside a term: the character, and whether it is threefold. -/
abbrev Quotes := Option (Char × Bool)

/-- The next two characters are the given one. -/
def isThreefold (c : Char) (rest : List Char) : Bool :=
  rest.take 2 == [c, c]

/-- The term at the start of a text, its latest character first, and what follows: `opened` are the
open brackets, the latest first. -/
def innerTerm : (fuel : Nat) → (opened : List Char) → Quotes → (done : List Char) → List Char →
    Except Fault (List Char × List Char)
  | 0, _, _, done, cs => .ok (done, cs)
  | _, opened, quotes, done, [] =>
    if quotes.isSome then .error .templateOpenText
    else
      match opened with
      | c :: _ => .error (.templateUnmatched c)
      | [] => .ok (done, [])
  | fuel + 1, opened, quotes, done, c :: rest =>
    if c = '\\' then .error .templateBackslash
    else
      match quotes with
      | some (quote, isLong) =>
        if c = quote && isLong && isThreefold c rest then
          innerTerm fuel opened none (c :: c :: c :: done) (rest.drop 2)
        else if c = quote && !isLong then innerTerm fuel opened none (c :: done) rest
        else innerTerm fuel opened quotes (c :: done) rest
      | none =>
        if c = '\'' || c = '"' then
          if isThreefold c rest then
            innerTerm fuel opened (some (c, true)) (c :: c :: c :: done) (rest.drop 2)
          else innerTerm fuel opened (some (c, false)) (c :: done) rest
        else if (closingOf? c).isSome then
          if maxBrackets ≤ opened.length then .error .templateTooManyBrackets
          else innerTerm fuel (c :: opened) none (c :: done) rest
        else if c = '#' then .error .templateComment
        else if opened.isEmpty && ['!', ':', '\x7d', '=', '<', '>'].contains c then
          if ['!', '=', '<', '>'].contains c && rest.head? == some '=' then
            innerTerm fuel opened none ('=' :: c :: done) (rest.drop 1)
          else if c = '<' || c = '>' then innerTerm fuel opened none (c :: done) rest
          else .ok (done, c :: rest)
        else if c = ')' || c = ']' || c = '\x7d' then
          match opened with
          | [] => .error (.templateUnmatched c)
          | o :: outer =>
            if closingOf? o = some c then innerTerm fuel outer none (c :: done) rest
            else .error (.templateMismatched c o)
        else innerTerm fuel opened none (c :: done) rest

/-- White space that a term may consist of. -/
def isTermBlank (c : Char) : Bool :=
  c = ' ' || c = '\t' || c = '\n' || c.toNat = 12

/-- Checks the term of a template: it is read in brackets. -/
def checkInner (readInner : List Char → Except Failure Tree) (term : List Char)
    (stop : Option Char) : Except Failure Unit := do
  if term.all isTermBlank then
    match stop with
    | some '\x7d' | none => throw (.fault .templateEmpty)
    | some c => throw (.fault (.templateNothingBefore c))
  else
    let _ ← readInner ('(' :: term ++ [')', '\n'])

/-- White space after the mark that shows a term. -/
def isAsciiBlank (c : Char) : Bool :=
  c = ' ' || (9 ≤ c.toNat && c.toNat ≤ 13)

/-- The mark that shows a term, and the white space after it, are left out. -/
def afterShowing : List Char → Except Fault (List Char)
  | '=' :: rest =>
    match rest.dropWhile isAsciiBlank with
    | [] => .error .templateOpen
    | rest => .ok rest
  | rest => .ok rest

/-- The conversion of a term is left out. -/
def afterConversion : List Char → Except Fault (List Char)
  | '!' :: rest =>
    match rest with
    | [] => .error .templateOpen
    | c :: rest => if ['s', 'r', 'a'].contains c then .ok rest else .error .templateConversion
  | rest => .ok rest

/-- The most terms that may stand in one another's formats. -/
def maxTemplateLevel : Nat := 2

/-- Checks a template from some place on and gives what follows it: the end of the text or, in the
format of a term, a closing brace. -/
def checkTemplate (readInner : List Char → Except Failure Tree) (isRaw : Bool) :
    (fuel level : Nat) → List Char → Except Failure (List Char)
  | 0, _, cs => .ok cs
  | fuel + 1, level, cs => do
    let (plain, ending, rest) ← (plainPart isRaw (level == 0) (cs.length + 1) [] cs).mapError .fault
    if !isRaw then
      if let some f := textFault? plain.reverse then throw (.fault f)
    match ending, rest with
    | .doubled, _ => checkTemplate readInner isRaw fuel level rest
    | .here, [] => if level = 0 then return [] else throw (.fault .templateOpen)
    | .here, c :: inner =>
      if c = '\x7d' then return rest
      else if maxTemplateLevel ≤ level then throw (.fault .templateTooDeep)
      else
        let (term, rest) ← (innerTerm (inner.length + 1) [] none [] inner).mapError .fault
        if rest.isEmpty then throw (.fault .templateOpen)
        checkInner readInner term.reverse rest.head?
        let rest ← (afterShowing rest).mapError .fault
        let rest ← (afterConversion rest).mapError .fault
        let rest ← match rest with
          | ':' :: format =>
            if format.isEmpty then throw (.fault .templateOpen)
            else checkTemplate readInner isRaw fuel (level + 1) format
          | rest => pure rest
        match rest with
        | '\x7d' :: rest => checkTemplate readInner isRaw fuel level rest
        | _ => throw (.fault .templateOpen)

/-! ## Texts in a row -/

/-- Checks texts in a row; `isBytes` tells what those before are. Some of them may be templates. -/
def checkTexts (readInner : List Char → Except Failure Tree) :
    (isBytes : Option Bool) → List WrittenText → Except Failure Unit
  | _, [] => .ok ()
  | isBytes, t :: rest => do
    if !t.isTemplate then
      if let some f := t.fault? then throw (.fault f)
    if isBytes.any (· != t.isBytes) then throw (.fault .mixedTexts)
    if t.isTemplate then
      let _ ← checkTemplate readInner t.isRaw (t.body.length + 2) 0 t.body
    checkTexts readInner (some t.isBytes) rest

/-- What texts in a row stand for. -/
def textsTree (readInner : List Char → Except Failure Tree) (l : List Token) :
    Except Failure Tree := do
  let texts := l.map fun t => WrittenText.ofChars t.chars
  checkTexts readInner none texts
  if texts.any (·.isTemplate) then return .node .template []
  else if texts.any (·.isBytes) then return .constant .bytes
  else return .constant .text

end SourceFacts.Term
