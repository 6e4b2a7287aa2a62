import SourceFacts.Term.Fault
import SourceFacts.Term.Token
import SourceFacts.Text.Identifier
import SourceFacts.Text.Printable

/-!
# Cutting a text into tokens

The text is cut from left to right, up to its end or to the first fault. Within brackets a line end
has no meaning; outside of them it is a token, and so is a change of the indentation after it.
-/

namespace SourceFacts.Term

/-- Where the tokens of a text stop before its end. -/
structure Halt where
  fault : Fault
  /-- The fault is reported even if it stands behind another one. -/
  isLoud : Bool := true
  /-- The latest bracket that is open, with its line. -/
  bracket : Option (Char × Nat) := none

/-- The tokens of a text. -/
structure Tokens where
  list : Array Token
  halt : Option Halt

/-! ## Numbers -/

/-- The character may stand in a name, as far as can be told without a look at its script. -/
def isNamePart (c : Char) : Bool :=
  c.isAlphanum || c == '_' || 128 ≤ c.toNat

/-- The words that may follow a number without a blank, and whether they end there for sure. -/
def wordsAfterNumber : List (String × Bool) :=
  [("and", true), ("else", true), ("for", true), ("if", false), ("in", false), ("is", false),
   ("or", true), ("not", true)]

/-- A word that may follow a number starts here. -/
def startsWordAfterNumber (cs : List Char) : Bool :=
  wordsAfterNumber.any fun (word, ends) =>
    word.toList.isPrefixOf cs && !(ends && (cs.drop word.length).head?.any isNamePart)

/-- Checks what follows a number. -/
def endNumber (kind : String) (rest : List Char) : Except Fault (List Char) :=
  if startsWordAfterNumber rest then .ok rest
  else if rest.head?.any isNamePart then .error (.badNumber kind)
  else .ok rest

/-- What follows decimal digits with single underscores between them. -/
def afterDigits : List Char → Except Fault (List Char)
  | [] => .ok []
  | '_' :: c :: cs => if c.isDigit then afterDigits cs else .error (.badNumber "decimal")
  | ['_'] => .error (.badNumber "decimal")
  | c :: cs => if c.isDigit then afterDigits cs else .ok (c :: cs)

/-- What follows digits of a base other than ten. An underscore may stand before each of them. -/
def afterBasedDigits (kind : String) (isDigit : Char → Bool) :
    (started : Bool) → List Char → Except Fault (List Char)
  | started, cs =>
    let wrong (cs : List Char) : Fault :=
      match cs with
      | c :: _ => if c.isDigit then .badDigit c kind else .badNumber kind
      | [] => .badNumber kind
    match cs with
    | '_' :: c :: rest =>
      if isDigit c then afterBasedDigits kind isDigit true rest else .error (wrong (c :: rest))
    | ['_'] => .error (.badNumber kind)
    | c :: rest =>
      if isDigit c then afterBasedDigits kind isDigit true rest
      else if started && !c.isDigit then endNumber kind (c :: rest)
      else .error (wrong (c :: rest))
    | [] => if started then .ok [] else .error (.badNumber kind)

/-- What follows the exponent of a number, where one starts, and the mark of an imaginary one. -/
def afterFraction (cs : List Char) : Except Fault (List Char) := do
  let imaginary (cs : List Char) : Except Fault (List Char) :=
    match cs with
    | c :: rest =>
      if c == 'j' || c == 'J' then endNumber "imaginary" rest else endNumber "decimal" (c :: rest)
    | [] => .ok []
  match cs with
  | c :: rest =>
    if c == 'e' || c == 'E' then
      match rest with
      | s :: digits =>
        if s == '+' || s == '-' then
          if digits.head?.any Char.isDigit then imaginary (← afterDigits digits)
          else .error (.badNumber "decimal")
        else if s.isDigit then imaginary (← afterDigits rest)
        else endNumber "decimal" cs
      | [] => endNumber "decimal" cs
    else imaginary cs
  | [] => .ok []

/-- What follows the digits after a point and the rest of a number. -/
def afterPoint (cs : List Char) : Except Fault (List Char) := do
  if cs.head?.any Char.isDigit then afterFraction (← afterDigits cs) else afterFraction cs

/-- Zeros with single underscores between them, and what follows. -/
def afterZeros : List Char → Except Fault (List Char)
  | '_' :: c :: cs =>
    if c == '0' then afterZeros cs
    else if c.isDigit then .ok (c :: cs)
    else .error (.badNumber "decimal")
  | ['_'] => .error (.badNumber "decimal")
  | '0' :: cs => afterZeros cs
  | cs => .ok cs

/-- What follows a number that starts with zero. -/
def afterLeadingZero (cs : List Char) : Except Fault (List Char) := do
  let zeros ← afterZeros cs
  let hasDigits := zeros.head?.any Char.isDigit
  let rest ← if hasDigits then afterDigits zeros else pure zeros
  match rest with
  | '.' :: more => afterPoint more
  | c :: more =>
    if c == 'e' || c == 'E' then afterFraction rest
    else if c == 'j' || c == 'J' then endNumber "imaginary" more
    else if hasDigits then .error .leadingZeros
    else endNumber "decimal" rest
  | [] => if hasDigits then .error .leadingZeros else .ok []

/-- What follows a number. -/
def afterNumber (cs : List Char) : Except Fault (List Char) := do
  match cs with
  | '0' :: c :: rest =>
    if c == 'x' || c == 'X' then
      afterBasedDigits "hexadecimal" (fun d => (Text.hexValue? d).isSome) false rest
    else if c == 'o' || c == 'O' then
      afterBasedDigits "octal" (fun d => '0' ≤ d && d ≤ '7') false rest
    else if c == 'b' || c == 'B' then
      afterBasedDigits "binary" (fun d => d == '0' || d == '1') false rest
    else afterLeadingZero (c :: rest)
  | '.' :: rest => afterPoint rest
  | _ =>
    match ← afterDigits cs with
    | '.' :: rest => afterPoint rest
    | rest => afterFraction rest

/-! ## Texts -/

/-- The letters that may stand before the quotes of a text. -/
def textLetters : List String := ["b", "r", "u", "f", "br", "rb", "fr", "rf"]

/-- The letters before the quotes of a text that starts here; no text starts without a quote. -/
def lettersOfText? (cs : List Char) : Option (List Char) :=
  let isQuote (c : Option Char) : Bool := c == some '\'' || c == some '"'
  [0, 1, 2].findSome? fun n =>
    let letters := cs.take n
    if isQuote (cs.drop n).head? &&
        (n == 0 || textLetters.contains (String.ofList (letters.map Char.toLower)))
    then some letters else none

/-- What follows a text in single quotes, and the number of line ends in it; `none` if the text does
not end. -/
def afterShortText (quote : Char) : (lines : Nat) → List Char → Option (List Char) × Nat
  | lines, '\\' :: c :: cs => afterShortText quote (if c = '\n' then lines + 1 else lines) cs
  | lines, c :: cs =>
    if c = quote then (some cs, lines) else if c = '\n' then (none, lines)
    else afterShortText quote lines cs
  | lines, [] => (none, lines)

/-- What follows a text in threefold quotes, and the number of line ends in it; `none` if the text
does not end. -/
def afterLongText (quote : Char) : (lines : Nat) → List Char → Option (List Char) × Nat
  | lines, '\\' :: c :: cs => afterLongText quote (if c = '\n' then lines + 1 else lines) cs
  | lines, c :: cs =>
    match cs with
    | d :: e :: rest =>
      if c = quote && d = quote && e = quote then (some rest, lines)
      else afterLongText quote (if c = '\n' then lines + 1 else lines) cs
    | _ => afterLongText quote (if c = '\n' then lines + 1 else lines) cs
  | lines, [] => (none, lines)

/-- What follows a text that starts with its quotes on a line, and the line on which it ends. -/
def afterText (line : Nat) : List Char → Except Fault (List Char × Nat)
  | a :: b :: c :: cs =>
    if a = b && b = c then
      match afterLongText a 0 cs with
      | (some rest, lines) => .ok (rest, line + lines)
      | (none, lines) => .error (.openLongText (line + lines))
    else if a = b then .ok (c :: cs, line)
    else
      match afterShortText a 0 (b :: c :: cs) with
      | (some rest, lines) => .ok (rest, line + lines)
      | (none, lines) => .error (.openText (line + lines))
  | [a, b] => if a = b then .ok ([], line) else .error (.openText line)
  | _ => .error (.openText line)

/-! ## Names and marks -/

/-- The first character that keeps letters and digits from being a name. -/
def badNamePart? : List Char → Option Char
  | [] => none
  | c :: cs =>
    if Text.isIdentifierStart c || c == '_' then cs.find? fun d => !Text.isIdentifierPart d
    else some c

/-- The token that letters and digits make. -/
def nameToken (word : List Char) (level line : Nat) : Except Fault Token :=
  match if word.all (·.toNat < 128) then none else badNamePart? word with
  | some c => .error (if Text.isPrintable c then .badCharacter c else .hiddenCharacter c)
  | none =>
    let kind : TokenKind := if keywords.contains (String.ofList word) then .mark else .name
    .ok { kind, chars := word, level, line }

/-- The mark at the start of a text. -/
def markAt (cs : List Char) : List Char :=
  match longMarks.find? fun m => m.toList.isPrefixOf cs with
  | some m => m.toList
  | none => cs.take 1

/-- The bracket that closes what a bracket opens. -/
def closingOf? (c : Char) : Option Char :=
  if c = '(' then some ')' else if c = '[' then some ']' else if c = '\x7b' then some '\x7d'
  else none

/-- The most brackets that may be open at once. -/
def maxBrackets : Nat := 200

/-- The brackets that are open after a mark on a line, the latest first. -/
def bracketsAfter (opened : List (Char × Nat)) (line : Nat) (mark : List Char) :
    Except Fault (List (Char × Nat)) :=
  match mark with
  | [c] =>
    if (closingOf? c).isSome then
      if maxBrackets ≤ opened.length then .error .tooManyBrackets else .ok ((c, line) :: opened)
    else if c = ')' || c = ']' || c = '\x7d' then
      match opened with
      | [] => .error (.unmatched c)
      | (o, l) :: rest =>
        if closingOf? o = some c then .ok rest
        else .error (.mismatched c o (if l = line then none else some l))
    else if Text.isPrintable c then .ok opened
    else .error (.hiddenCharacter c)
  | _ => .ok opened

/-! ## Lines -/

/-- How a line is indented: by columns, with tabs counted in two ways. -/
structure Indent where
  columns : Nat := 0
  narrow : Nat := 0

/-- The start of a line: its indentation, its number, and what follows the indentation. -/
structure LineStart where
  indent : Indent
  line : Nat
  rest : List Char

/-- Takes the indentation of a line. If the line goes on after backslashes, the columns before the
first one are `kept`, unless there are none. -/
def takeIndent : (line kept : Nat) → Indent → List Char → Except Fault LineStart
  | line, kept, i, ' ' :: cs => takeIndent line kept ⟨i.columns + 1, i.narrow + 1⟩ cs
  | line, kept, i, '\t' :: cs => takeIndent line kept ⟨(i.columns / 8 + 1) * 8, i.narrow + 1⟩ cs
  | line, kept, i, '\\' :: '\n' :: cs =>
    if cs.isEmpty then .error .endOfText
    else takeIndent (line + 1) (if kept = 0 then i.columns else kept) i cs
  | _, _, _, '\\' :: _ => .error .strayBackslash
  | line, kept, i, rest@(c :: cs) =>
    if c.toNat = 12 then takeIndent line kept {} cs
    else .ok { indent := if kept = 0 then i else ⟨kept, kept⟩, line, rest }
  | line, _, i, [] => .ok { indent := i, line, rest := [] }

/-- The most indentations that may be open at once. -/
def maxIndents : Nat := 100

/-- The open indentations before a line, the latest first, and the kinds of the tokens that the
change makes. -/
def indentsAfter (indents : List Indent) (i : Indent) : Except Fault (List Indent × List TokenKind) :=
  let top := indents.headD {}
  if i.columns = top.columns then
    if i.narrow = top.narrow then .ok (indents, []) else .error .badTabs
  else if top.columns < i.columns then
    if maxIndents ≤ indents.length + 1 then .error .tooManyIndents
    else if i.narrow ≤ top.narrow then .error .badTabs
    else .ok (i :: indents, [.indent])
  else
    let kept := indents.dropWhile fun o => i.columns < o.columns
    let top := kept.headD {}
    if i.columns ≠ top.columns then .error .badUnindent
    else if i.narrow ≠ top.narrow then .error .badTabs
    else .ok (kept, List.replicate (indents.length - kept.length) .unindent)

/-! ## The whole text -/

/-- What is left of a text, and what was before it. -/
structure LexState where
  rest : List Char
  line : Nat := 1
  /-- The open brackets with their lines, the latest first. -/
  opened : List (Char × Nat) := []
  /-- The open indentations, the latest first. -/
  indents : List Indent := []
  atLineStart : Bool := true
  tokens : Array Token := #[]

/-- To cut off a token the character after it is looked at, unless a quote ends the token or it has
three characters, as a mark has at most. After a point two characters are looked at, and after a
number a word that follows it without a blank. -/
def seesEnd (kind : TokenKind) (chars rest : List Char) : Bool :=
  match rest with
  | [] =>
    match kind with
    | .text | .newline => false
    | .mark => chars.length < 3 || chars.all Char.isAlpha
    | _ => true
  | _ =>
    match kind with
    | .mark => chars == ['.'] && rest == ['.']
    | .number => wordsAfterNumber.any fun (word, ends) => ends && word.toList == rest
    | _ => false

namespace LexState

/-- The state after a token. -/
def push (s : LexState) (t : Token) (rest : List Char) : LexState :=
  let t := { t with seesEnd := seesEnd t.kind t.chars rest }
  { s with tokens := s.tokens.push t, rest, line := t.line }

/-- The tokens up to a fault. -/
def stop (s : LexState) (fault : Fault) (isLoud : Bool := true) : Tokens where
  list := s.tokens
  halt := some { fault, isLoud, bracket := s.opened.head? }

/-- The tokens up to the end of the text. -/
def finish (s : LexState) : Tokens :=
  match s.opened with
  | (c, _) :: _ => s.stop (.neverClosed c) false
  | [] => { list := s.tokens.push { kind := .finish, line := s.line }, halt := none }

/-- The tokens up to a backslash that ends no line, or that ends the last one: then a bracket that is
open is the fault. -/
def cutOff (s : LexState) (fault : Fault) : Tokens :=
  match fault, s.opened with
  | .endOfText, (c, _) :: _ => s.stop (.neverClosed c) false
  | _, _ => s.stop fault false

end LexState

/-- Cuts the rest of a text, in at most `steps` steps. -/
def lexFrom : (steps : Nat) → LexState → Tokens
  | 0, s => s.finish
  | steps + 1, s =>
    if s.atLineStart then
      match takeIndent s.line 0 {} s.rest with
      | .error fault => s.cutOff fault
      | .ok { indent, line, rest } =>
        let s := { s with atLineStart := false, line, rest }
        let isBlankLine := rest.head? == some '#' || rest.head? == some '\n' || rest.isEmpty
        if isBlankLine then
          match rest.dropWhile (· != '\n') with
          | _ :: more =>
            lexFrom steps { s with rest := more, line := line + 1, atLineStart := true }
          | [] => { s with rest := [] }.finish
        else if !s.opened.isEmpty then lexFrom steps s
        else
          match indentsAfter s.indents indent with
          | .error fault => s.stop fault false
          | .ok (indents, kinds) =>
            let changes := (kinds.map fun kind => ({ kind, line } : Token)).toArray
            lexFrom steps { s with indents, tokens := s.tokens ++ changes }
    else
      match s.rest with
      | [] => s.finish
      | c :: cs =>
        let level := s.opened.length
        if c == ' ' || c == '\t' || c.toNat == 12 then lexFrom steps { s with rest := cs }
        else if c == '#' then lexFrom steps { s with rest := cs.dropWhile (· != '\n') }
        else if c == '\n' then
          let s := { s with atLineStart := true }
          if s.opened.isEmpty then
            let s := s.push { kind := .newline, level, line := s.line } cs
            lexFrom steps { s with line := s.line + 1 }
          else lexFrom steps { s with rest := cs, line := s.line + 1 }
        else if c == '\\' then
          match cs with
          | '\n' :: more =>
            if more.isEmpty then s.cutOff .endOfText
            else lexFrom steps { s with rest := more, line := s.line + 1 }
          | _ => s.cutOff .strayBackslash
        else
          match lettersOfText? s.rest with
          | some letters =>
            match afterText s.line (s.rest.drop letters.length) with
            | .error fault => s.stop fault
            | .ok (rest, line) =>
              let chars := s.rest.take (s.rest.length - rest.length)
              let s := s.push { kind := .text, chars, level, line := s.line } rest
              lexFrom steps { s with line }
          | none =>
            if c.isDigit || (c == '.' && cs.head?.any Char.isDigit) then
              match afterNumber s.rest with
              | .error fault => s.stop fault
              | .ok rest =>
                let chars := s.rest.take (s.rest.length - rest.length)
                lexFrom steps (s.push { kind := .number, chars, level, line := s.line } rest)
            else if isNamePart c then
              let word := s.rest.takeWhile isNamePart
              match nameToken word level s.line with
              | .error fault => s.stop fault
              | .ok t => lexFrom steps (s.push t (s.rest.drop word.length))
            else
              let mark := markAt s.rest
              match bracketsAfter s.opened s.line mark with
              | .error fault => s.stop fault
              | .ok opened =>
                let s := { s with opened }
                let t : Token := { kind := .mark, chars := mark, level := opened.length, line := s.line }
                lexFrom steps (s.push t (s.rest.drop mark.length))

/-- Every line end as one character. -/
def plainLineEnds : List Char → List Char
  | '\r' :: '\n' :: cs => '\n' :: plainLineEnds cs
  | '\r' :: cs => '\n' :: plainLineEnds cs
  | c :: cs => c :: plainLineEnds cs
  | [] => []

/-- The tokens of a text. -/
def lex (cs : List Char) : Tokens :=
  let cs := plainLineEnds cs
  lexFrom (2 * cs.length + 2) { rest := cs }

end SourceFacts.Term
