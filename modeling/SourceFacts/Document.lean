import SourceFacts.Number.Shortest
import SourceFacts.Text.Dotted
import SourceFacts.Text.Quoted

/-!
# Documents

Reports are given out as documents: texts, numbers and truth values in lists and in records whose
fields have an order. A document is written with one item a line, indented by two blanks a level.
-/

namespace SourceFacts

/-- A document. -/
inductive Document where
  | null
  | bool (b : Bool)
  | int (n : Int)
  /-- A number of the 64-bit binary format, by its bits. -/
  | float (bits : Nat)
  | text (s : String)
  | list (items : List Document)
  | record (fields : List (String × Document))
deriving Inhabited

namespace Document

/-- The fields of a record. -/
abbrev Fields := List (String × Document)

/-- A natural number as a document. -/
def nat (n : Nat) : Document := .int n

/-- A document that may be missing. -/
def optional {α : Type} (f : α → Document) : Option α → Document
  | some a => f a
  | none => .null

/-- A list of texts as a document. -/
def texts (l : List String) : Document := .list (l.map .text)

/-- The text that a document is. -/
def text? : Document → Option String
  | .text s => some s
  | _ => none

/-- The number that a document is. -/
def int? : Document → Option Int
  | .int n => some n
  | _ => none

/-- The number that a document counts as; truth counts as one, and a fraction is rounded up. -/
def count? : Document → Option Int
  | .int n => some n
  | .float bits => some (Number.roundedUp bits)
  | .bool b => some (if b then 1 else 0)
  | _ => none

/-- What kind of value a document is. -/
def kindName : Document → String
  | .null => "NoneType"
  | .bool _ => "bool"
  | .int _ => "int"
  | .float _ => "float"
  | .text _ => "str"
  | .list _ => "list"
  | .record _ => "dict"

/-- The document is a value that counts as nothing. -/
def isEmpty : Document → Bool
  | .null => true
  | .bool b => !b
  | .int n => n == 0
  | .float bits => Number.magnitudeBits bits == 0
  | .text s => s.isEmpty
  | .list items => items.isEmpty
  | .record fields => fields.isEmpty

mutual

/-- A value on one line, texts between quotes. -/
def quoted : Document → String
  | .null => "None"
  | .bool b => if b then "True" else "False"
  | .int n => toString n
  | .float bits => Number.binary64Text bits
  | .text s => Text.quoted s
  | .list items => "[" ++ Text.joinWith ", " (quotedItems items) ++ "]"
  | .record fields => "\x7b" ++ Text.joinWith ", " (quotedFields fields) ++ "\x7d"

/-- Every item on one line. -/
def quotedItems : List Document → List String
  | [] => []
  | d :: rest => quoted d :: quotedItems rest

/-- Every field on one line. -/
def quotedFields : List (String × Document) → List String
  | [] => []
  | (name, d) :: rest => (Text.quoted name ++ ": " ++ quoted d) :: quotedFields rest

end

/-- A value inside a text: a text as it is, anything else on one line. -/
def inText : Document → String
  | .text s => s
  | d => d.quoted

/-- The value of a field; null if the record does not have it. -/
def fieldOf (fields : Fields) (name : String) : Document :=
  (fields.lookup name).getD .null

/-! ## Writing -/

/-- A unit of sixteen bits as an escape. -/
def escapeUnit (n : Nat) : List Char :=
  '\\' :: 'u' :: Text.hexPlaces 4 n

/-- A character inside a text: only printable ASCII stands for itself, and a character beyond
sixteen bits is written as two units. -/
def escapeChar (c : Char) : List Char :=
  if c == '"' then ['\\', '"']
  else if c == '\\' then ['\\', '\\']
  else if c == '\n' then ['\\', 'n']
  else if c == '\r' then ['\\', 'r']
  else if c == '\t' then ['\\', 't']
  else if c.toNat == 8 then ['\\', 'b']
  else if c.toNat == 12 then ['\\', 'f']
  else if 32 ≤ c.toNat ∧ c.toNat < 127 then [c]
  else if c.toNat < 0x10000 then escapeUnit c.toNat
  else
    let rest := c.toNat - 0x10000
    escapeUnit (0xd800 + rest / 0x400) ++ escapeUnit (0xdc00 + rest % 0x400)

/-- A text in quotes. -/
def quotedText (s : String) : String :=
  String.ofList ('"' :: s.toList.flatMap escapeChar ++ ['"'])

/-- The start of a line at a level. -/
def newLine (level : Nat) : String :=
  String.ofList ('\n' :: List.replicate (2 * level) ' ')

mutual

/-- A document at a level. -/
def write (level : Nat) : Document → String
  | .null => "null"
  | .bool b => if b then "true" else "false"
  | .int n => toString n
  | .float bits => Number.binary64Text bits
  | .text s => quotedText s
  | .list [] => "[]"
  | .list (d :: ds) =>
    "[" ++ newLine (level + 1) ++ write (level + 1) d ++ writeItems (level + 1) ds ++
      newLine level ++ "]"
  | .record [] => "\x7b\x7d"
  | .record ((name, d) :: rest) =>
    "\x7b" ++ newLine (level + 1) ++ quotedText name ++ ": " ++ write (level + 1) d ++
      writeFields (level + 1) rest ++ newLine level ++ "\x7d"

/-- The items after the first one. -/
def writeItems (level : Nat) : List Document → String
  | [] => ""
  | d :: ds => "," ++ newLine level ++ write level d ++ writeItems level ds

/-- The fields after the first one. -/
def writeFields (level : Nat) : List (String × Document) → String
  | [] => ""
  | (name, d) :: rest =>
    "," ++ newLine level ++ quotedText name ++ ": " ++ write level d ++ writeFields level rest

end

/-- Writes a document. -/
def render (d : Document) : String := d.write 0

end Document

end SourceFacts
