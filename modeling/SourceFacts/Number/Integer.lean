import SourceFacts.Text.Blank
import SourceFacts.Text.Digit
import SourceFacts.Text.Dotted
import SourceFacts.Text.Hex
import SourceFacts.Text.Quoted

/-!
# Reading whole numbers

A number may be decimal, hexadecimal (`0x`), octal (`0o`) or binary (`0b`), with a sign and with
white space around it. A decimal number other than zero does not start with a zero, and has at most
`decimalLimit` digits.
-/

namespace SourceFacts.Number

open SourceFacts.Text

/-- The most digits that a decimal number may have. -/
def decimalLimit : Nat := 4300

/-- White space around a number. -/
def isMargin (c : Char) : Bool :=
  c = ' ' || (decide (9 ≤ c.toNat) && decide (c.toNat ≤ 13)) || (decide (127 ≤ c.toNat) && isBlank c)

/-- The value of a digit: of any script when decimal, a Latin letter above nine. -/
def digitValue? (c : Char) : Option Nat :=
  if c.toNat < 127 then hexValue? c else decimalValue? c

/-- The digits' value in a base, on top of what was read before; `none` for anything else. -/
def valueFrom? (base : Nat) : (acc : Nat) → List Char → Option Nat
  | acc, [] => some acc
  | acc, c :: cs =>
    match digitValue? c with
    | some d => if d < base then valueFrom? base (acc * base + d) cs else none
    | none => none

/-- The value of one or more digits in a base. -/
def value? (base : Nat) : List Char → Option Nat
  | [] => none
  | cs => valueFrom? base 0 cs

/-- The value of a decimal number. -/
def decimal? (cs : List Char) : Option Nat :=
  if cs.length ≤ decimalLimit then value? 10 cs else none

/-- The character is a zero digit. -/
def isZero (c : Char) : Bool :=
  digitValue? c == some 0

/-- The value of a number without sign. -/
def magnitude? : List Char → Option Nat
  | [] => none
  | c :: cs =>
    if isZero c then
      match cs with
      | [] => some 0
      | mark :: digits =>
        if mark = 'x' || mark = 'X' then value? 16 digits
        else if mark = 'o' || mark = 'O' then value? 8 digits
        else if mark = 'b' || mark = 'B' then value? 2 digits
        else (decimal? (c :: cs)).filter (· == 0)
    else decimal? (c :: cs)

/-- The sign of a number, and what follows it. -/
def takeSign : List Char → Bool × List Char
  | '-' :: cs => (true, cs)
  | '+' :: cs => (false, cs)
  | cs => (false, cs)

/-- The whole number that a text stands for. -/
def readInteger? (s : String) : Option Int :=
  let (negative, cs) := takeSign (trimBoth isMargin s.toList)
  (magnitude? cs).map fun n => if negative then -(n : Int) else n

/-- Why a text is no whole number in decimal notation. -/
inductive DecimalError where
  | invalid (text : String)
  | tooLong (digits : Nat)

/-- How many characters of a text that is no number are reported, quotes included. -/
def reportLimit : Nat := 200

/-- The report of an error. -/
def DecimalError.message : DecimalError → String
  | .invalid text =>
    "invalid literal for int() with base 10: " ++
      String.ofList ((quoted text).toList.take reportLimit)
  | .tooLong digits =>
    s!"Exceeds the limit ({decimalLimit} digits) for integer string conversion: value has " ++
      s!"{digits} digits; use sys.set_int_max_str_digits() to increase the limit"

/-- The character is a decimal digit. -/
def isDecimal (c : Char) : Bool :=
  match digitValue? c with
  | some d => decide (d < 10)
  | none => false

/-- Reads a whole number in decimal notation; single underscores may stand between its digits. The
digits are counted before what follows them is looked at. -/
def readDecimal (s : String) : Except DecimalError Int :=
  let (negative, cs) := takeSign (s.toList.dropWhile isMargin)
  let run := cs.takeWhile fun c => isDecimal c || c == '_'
  let groups := splitChars '_' run
  let digits := groups.flatten
  if groups.any List.isEmpty then .error (.invalid s)
  else if decimalLimit < digits.length then .error (.tooLong digits.length)
  else if (cs.drop run.length).all isMargin then
    match value? 10 digits with
    | some n => .ok (if negative then -(n : Int) else n)
    | none => .error (.invalid s)
  else .error (.invalid s)

/-- The whole number that a text stands for in decimal notation. -/
def readDecimal? (s : String) : Option Int :=
  (readDecimal s).toOption

end SourceFacts.Number
