import SourceFacts.Number.Integer

/-!
# Reading decimal fractions

A decimal number is read to the nearest number of the 64-bit binary format, a tie going to the even
neighbour. The number is kept as the bits of the format.
-/

namespace SourceFacts.Number

open SourceFacts.Text

/-- The quotient rounded to the nearest whole number, a tie to the even neighbour. -/
def roundQuotient (num den : Nat) : Nat :=
  let q := num / den
  let r := num % den
  if 2 * r < den then q
  else if den < 2 * r then q + 1
  else q + q % 2

/-- The bits of positive infinity. -/
def infinityBits : Nat := 0x7FF0000000000000

/-- The bits of the number that is not a number. -/
def nanBits : Nat := 0x7FF8000000000000

/-- The bit of the sign. -/
def signBit : Nat := 0x8000000000000000

/-- The exponent `k` with `2 ^ k ≤ num / den < 2 ^ (k + 1)`. -/
def binaryExponent (num den : Nat) : Int :=
  let guess : Int := (Nat.log2 num : Int) - Nat.log2 den
  let reaches : Bool :=
    match guess with
    | .ofNat k => decide (den * Nat.pow 2 k ≤ num)
    | .negSucc k => decide (den ≤ num * Nat.pow 2 (k + 1))
  if reaches then guess else guess - 1

/-- The bits of the number nearest to a positive fraction: the place of the last bit is at least
`-1074` and 52 below the first one, and the significand counts units of that place. -/
def fractionBits (num den : Nat) : Nat :=
  let place : Int := max (binaryExponent num den - 52) (-1074)
  let significand :=
    match place with
    | .ofNat k => roundQuotient num (den * Nat.pow 2 k)
    | .negSucc k => roundQuotient (num * Nat.pow 2 (k + 1)) den
  min ((place + 1074).toNat * Nat.pow 2 52 + significand) infinityBits

/-- The bits of the number nearest to `mantissa * 10 ^ exponent`. Beyond the decimal exponents of
the format the answer is known without a calculation. -/
def decimalBits (mantissa : Nat) (exponent : Int) : Nat :=
  if mantissa = 0 then 0
  else
    let magnitude : Int := exponent + (Nat.toDigits 10 mantissa).length
    if magnitude > 400 then infinityBits
    else if magnitude < -400 then 0
    else
      match exponent with
      | .ofNat e => fractionBits (mantissa * Nat.pow 10 e) 1
      | .negSucc e => fractionBits mantissa (Nat.pow 10 (e + 1))

/-- The decimal exponent after the digits: nothing, or a mark, a sign and digits. -/
def exponent? : List Char → Option Int
  | [] => some 0
  | mark :: cs =>
    if mark = 'e' || mark = 'E' then
      let (negative, digits) := takeSign cs
      match digits with
      | [] => none
      | _ => (valueFrom? 10 0 digits).map fun n => if negative then -(n : Int) else n
    else none

/-- The words for numbers that no digits give. -/
def wordBits? (cs : List Char) : Option Nat :=
  let word := String.ofList (cs.map Char.toLower)
  if word = "inf" ∨ word = "infinity" then some infinityBits
  else if word = "nan" then some nanBits
  else none

/-- The bits of a number without sign. -/
def unsignedBits? (cs : List Char) : Option Nat :=
  let whole := cs.takeWhile isDecimal
  let afterWhole := cs.dropWhile isDecimal
  let (fraction, rest) := match afterWhole with
    | '.' :: cs => (cs.takeWhile isDecimal, cs.dropWhile isDecimal)
    | cs => ([], cs)
  match whole ++ fraction with
  | [] => wordBits? cs
  | digits => do
    let mantissa ← valueFrom? 10 0 digits
    let exponent ← exponent? rest
    return decimalBits mantissa (exponent - fraction.length)

/-- The bits of the binary number that a decimal text stands for. -/
def readBinary64? (s : String) : Option Nat :=
  let (negative, cs) := takeSign (trimBoth isMargin s.toList)
  (unsignedBits? cs).map fun bits => if negative then signBit + bits else bits

end SourceFacts.Number
