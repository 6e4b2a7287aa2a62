import SourceFacts.Text.Hex

/-!
# Reading UTF-8

A machine reads one byte at a time. A byte that cannot go on with a character ends an invalid part,
the longest beginning of a character that was seen, and is then read anew. `decode` puts one
replacement character for each invalid part, `failure?` reports the first one.
-/

namespace SourceFacts.Text.Utf8

/-- A range of byte values, both ends included. -/
abbrev ByteRange := Nat × Nat

/-- Any continuation byte. -/
def continuation : ByteRange := (0x80, 0xBF)

/-- The machine between two bytes: at the start of a character, or after `seen` bytes of one that
began with `lead`, whose bits so far are `code` and whose remaining bytes lie in `next` and `later`. -/
inductive State where
  | idle
  | within (lead : UInt8) (seen code : Nat) (next : ByteRange) (later : List ByteRange)

/-- The bytes that may follow a first byte; `none` for a byte that starts nothing, and the empty
list for a character of its own. -/
def following? (b : Nat) : Option (List ByteRange) :=
  if b < 0x80 then some []
  else if b < 0xC2 then none
  else if b < 0xE0 then some [continuation]
  else if b = 0xE0 then some [(0xA0, 0xBF), continuation]
  else if b = 0xED then some [(0x80, 0x9F), continuation]
  else if b < 0xF0 then some [continuation, continuation]
  else if b = 0xF0 then some [(0x90, 0xBF), continuation, continuation]
  else if b < 0xF4 then some [continuation, continuation, continuation]
  else if b = 0xF4 then some [(0x80, 0x8F), continuation, continuation]
  else none

/-- The bits that a first byte gives to its character. -/
def leadBits (b : Nat) : Nat :=
  if b < 0x80 then b
  else if b < 0xE0 then b % 0x20
  else if b < 0xF0 then b % 0x10
  else b % 0x08

/-- What a byte does to the machine. -/
inductive Event where
  /-- The byte belongs to a character that goes on. -/
  | more
  /-- The byte ends a character. -/
  | char (c : Char)
  /-- The byte starts no character. -/
  | badStart

/-- Reads the first byte of a character. -/
def start (b : UInt8) : State × Event :=
  match following? b.toNat with
  | none => (.idle, .badStart)
  | some [] => (.idle, .char (Char.ofNat b.toNat))
  | some (next :: later) => (.within b 1 (leadBits b.toNat) next later, .more)

/-- Reads a byte inside a character; `none` when it cannot stand there. -/
def next? (lead : UInt8) (seen code : Nat) (next : ByteRange) (later : List ByteRange) (b : UInt8) :
    Option (State × Event) :=
  if next.1 ≤ b.toNat ∧ b.toNat ≤ next.2 then
    let code := code * 0x40 + b.toNat % 0x40
    match later with
    | [] => some (.idle, .char (Char.ofNat code))
    | r :: rs => some (.within lead (seen + 1) code r rs, .more)
  else
    none

/-- What is written for an invalid part. -/
def replacement : Char := Char.ofNat 0xFFFD

/-- The characters that an event completes. -/
def Event.chars : Event → List Char
  | .more => []
  | .char c => [c]
  | .badStart => [replacement]

/-- The characters of the bytes, read on from a state. -/
def decodeFrom : State → List UInt8 → List Char
  | .idle, [] => []
  | .within .., [] => [replacement]
  | .idle, b :: bs => (start b).2.chars ++ decodeFrom (start b).1 bs
  | .within lead seen code next later, b :: bs =>
    match next? lead seen code next later b with
    | some (s, e) => e.chars ++ decodeFrom s bs
    | none => replacement :: (start b).2.chars ++ decodeFrom (start b).1 bs

/-- The text of the bytes, with a replacement character for each invalid part. -/
def decode (bytes : List UInt8) : String :=
  String.ofList (decodeFrom .idle bytes)

/-- Why a part of the bytes is no character. -/
inductive Fault where
  | badStart
  | badContinuation
  | truncated

/-- An invalid part: its first byte, its place, its number of bytes and what is wrong. -/
structure Failure where
  lead : UInt8
  position : Nat
  length : Nat
  fault : Fault

/-- The first invalid part of the bytes, read on from a state before the byte at `position`. -/
def failureFrom : State → Nat → List UInt8 → Option Failure
  | .idle, _, [] => none
  | .within lead seen .., position, [] => some ⟨lead, position - seen, seen, .truncated⟩
  | .idle, position, b :: bs =>
    match start b with
    | (_, .badStart) => some ⟨b, position, 1, .badStart⟩
    | (s, _) => failureFrom s (position + 1) bs
  | .within lead seen code next later, position, b :: bs =>
    match next? lead seen code next later b with
    | some (s, _) => failureFrom s (position + 1) bs
    | none => some ⟨lead, position - seen, seen, .badContinuation⟩

/-- The first invalid part of the bytes. -/
def failure? (bytes : List UInt8) : Option Failure :=
  failureFrom .idle 0 bytes

/-- What is wrong, in words. -/
def Fault.reason : Fault → String
  | .badStart => "invalid start byte"
  | .badContinuation => "invalid continuation byte"
  | .truncated => "unexpected end of data"

/-- The report of an invalid part. -/
def Failure.message (f : Failure) : String :=
  let place :=
    if f.length = 1 then
      s!"byte 0x{String.ofList (hexPlaces 2 f.lead.toNat)} in position {f.position}"
    else
      s!"bytes in position {f.position}-{f.position + f.length - 1}"
  s!"'utf-8' codec can't decode {place}: {f.fault.reason}"

/-- The bytes of a text. -/
def encode (s : String) : List UInt8 :=
  s.toUTF8.toList

end SourceFacts.Text.Utf8
