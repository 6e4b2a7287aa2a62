import SourceFacts.Term.Fault
import SourceFacts.Text.CharacterName

/-!
# Escapes in texts

A backslash in a text starts an escape. What matters here is only whether all escapes are right. The
places of a wrong one are counted in the text with an escape of ten characters for each character
beyond ASCII.
-/

namespace SourceFacts.Term

/-- The text with escapes for characters beyond ASCII. -/
def asciiOnly : List Char → List Char
  | [] => []
  | '\\' :: c :: cs =>
    if c.toNat < 128 then '\\' :: c :: asciiOnly cs
    else "\\u005c".toList ++ longEscape c ++ asciiOnly cs
  | ['\\'] => "\\u005c".toList
  | c :: cs => (if c.toNat < 128 then [c] else longEscape c) ++ asciiOnly cs
where
  /-- The escape of a character. -/
  longEscape (c : Char) : List Char := '\\' :: 'U' :: Text.hexPlaces 8 c.toNat

/-- The kinds of escapes with hexadecimal digits: the letter, the number of digits, and what is said
if some of them lack. -/
def hexEscape? (c : Char) : Option (Nat × String) :=
  if c = 'x' then some (2, "truncated \\xXX escape")
  else if c = 'u' then some (4, "truncated \\uXXXX escape")
  else if c = 'U' then some (8, "truncated \\UXXXXXXXX escape")
  else none

/-- What is wrong with an escape at a place, given the letter after the backslash and what follows;
otherwise how many characters follow the letter in the escape. -/
def escapeFault? (place : Nat) (c : Char) (rest : List Char) : Except Fault Nat :=
  match hexEscape? c with
  | some (count, truncated) =>
    let digits := (rest.take count).takeWhile fun d => (Text.hexValue? d).isSome
    if digits.length < count then .error (.badEscape place (place + 1 + digits.length) truncated)
    else
      let value := digits.foldl (fun n d => n * 16 + (Text.hexValue? d).getD 0) 0
      if 0x110000 ≤ value then
        .error (.badEscape place (place + 1 + count) "illegal Unicode character")
      else .ok count
  | none =>
    if c = 'N' then
      let malformed (last : Nat) : Fault := .badEscape place last "malformed \\N character escape"
      match rest with
      | '\x7b' :: more =>
        let name := more.takeWhile (· != '\x7d')
        if more.length = name.length then .error (malformed (place + 2 + name.length))
        else if name.isEmpty then .error (malformed (place + 2))
        else if Text.isCharacterName name then .ok (name.length + 2)
        else .error (.badEscape place (place + 3 + name.length) "unknown Unicode character name")
      | _ => .error (malformed (place + 1))
    else .ok 0

/-- What is wrong with the escapes of a text in ASCII from a place on. -/
def escapesFault? (place : Nat) (cs : List Char) : Option Fault :=
  match cs with
  | [] => none
  | ['\\'] => none
  | '\\' :: c :: rest =>
    match escapeFault? place c rest with
    | .error f => some f
    | .ok count => escapesFault? (place + 2 + count) (rest.drop count)
  | _ :: rest => escapesFault? (place + 1) rest
termination_by cs.length
decreasing_by
  all_goals simp only [List.length_drop, List.length_cons]; omega

/-- What is wrong with the escapes of a text. -/
def textFault? (cs : List Char) : Option Fault :=
  escapesFault? 0 (asciiOnly cs)

/-- What is wrong with the escapes of a text of bytes from a place on. -/
def bytesFault? : (place : Nat) → List Char → Option Fault
  | _, [] => none
  | place, '\\' :: c :: rest =>
    let digits := (rest.take 2).takeWhile fun d => (Text.hexValue? d).isSome
    if c = 'x' && digits.length < 2 then some (.badByte place) else bytesFault? (place + 2) rest
  | place, _ :: rest => bytesFault? (place + 1) rest

end SourceFacts.Term
