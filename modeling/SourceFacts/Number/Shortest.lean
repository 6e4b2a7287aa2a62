import SourceFacts.Number.Binary64
import SourceFacts.Number.Grouped

/-!
# Writing decimal fractions

A number of the 64-bit binary format is written with the fewest decimal digits that are read back as
the same number, and among those with the digits nearest to it.
-/

namespace SourceFacts.Number

/-- The number, given by its bits, is negative. -/
def isNegative (bits : Nat) : Bool :=
  decide (signBit ≤ bits)

/-- The bits without the sign. -/
def magnitudeBits (bits : Nat) : Nat :=
  bits % signBit

/-- The number as a fraction, without its sign: numerator and denominator. -/
def fractionOf (bits : Nat) : Nat × Nat :=
  let exponent := magnitudeBits bits / Nat.pow 2 52
  let rest := magnitudeBits bits % Nat.pow 2 52
  if exponent = 0 then (rest, Nat.pow 2 1074)
  else if 1075 ≤ exponent then ((Nat.pow 2 52 + rest) * Nat.pow 2 (exponent - 1075), 1)
  else (Nat.pow 2 52 + rest, Nat.pow 2 (1075 - exponent))

/-- The place `k` with `10 ^ (k - 1) ≤ num / den < 10 ^ k`, for a positive fraction. -/
def decimalPlace (num den : Nat) : Int :=
  if den ≤ num then (Nat.toDigits 10 (num / den)).length
  else 1 - ((Nat.toDigits 10 ((den - 1) / num)).length : Int)

/-- The fraction in units of `10 ^ exponent`, as another fraction. -/
def inUnits (num den : Nat) : (exponent : Int) → Nat × Nat
  | .ofNat e => (num, den * Nat.pow 10 e)
  | .negSucc e => (num * Nat.pow 10 (e + 1), den)

/-- The nearest of the two whole numbers of units around a number that is read back as that number;
of two that are equally near the even one. -/
def readBack? (bits : Nat) (exponent : Int) : Option Nat :=
  let (num, den) := inUnits (fractionOf bits).1 (fractionOf bits).2 exponent
  let nearest := roundQuotient num den
  let below := num / den
  let other := if nearest = below then below + 1 else below
  [nearest, other].find? fun n => decimalBits n exponent == magnitudeBits bits

/-- The fewest digits, as a whole number with the exponent of its last digit: those with `count`
digits or, in at most `tries` further steps, with more. -/
def fewestDigits (bits : Nat) (place : Int) : (tries count : Nat) → Nat × Int
  | 0, _ => (0, 0)
  | tries + 1, count =>
    match readBack? bits (place - count) with
    | some n => (n, place - count)
    | none => fewestDigits bits place tries (count + 1)

/-- The number without the zeros at its end, and how many they are, in at most `tries` steps. -/
def dropZeros : (tries : Nat) → Nat → Nat × Nat
  | 0, n => (n, 0)
  | tries + 1, n =>
    if n % 10 = 0 then
      let (m, zeros) := dropZeros tries (n / 10)
      (m, zeros + 1)
    else (n, 0)

/-- The digits of a positive number, and the place of the point after them. -/
def shortestDigits (bits : Nat) : List Char × Int :=
  let place := decimalPlace (fractionOf bits).1 (fractionOf bits).2
  let (n, exponent) := fewestDigits bits place 17 1
  let (n, zeros) := dropZeros 17 n
  let digits := Nat.toDigits 10 n
  (digits, exponent + zeros + digits.length)

/-- Below this place of the point a number is written without an exponent. -/
def plainLimit : Int := 16

/-- An exponent with its sign and at least two digits. -/
def exponentText (e : Int) : List Char :=
  let digits := Nat.toDigits 10 e.natAbs
  (if e < 0 then '-' else '+') :: (if digits.length < 2 then ['0'] else []) ++ digits

/-- Digits before the point, grouped if asked for. -/
def wholeDigits (grouping : Bool) (cs : List Char) : List Char :=
  if grouping then (groupReversed cs.reverse).reverse else cs

/-- A positive number by its digits and the place of the point. -/
def placedText (grouping : Bool) (digits : List Char) (place : Int) : List Char :=
  if place ≤ -4 ∨ plainLimit < place then
    let fraction := digits.drop 1
    digits.take 1 ++ (if fraction.isEmpty then [] else '.' :: fraction) ++
      'e' :: exponentText (place - 1)
  else if place ≤ 0 then
    '0' :: '.' :: List.replicate place.natAbs '0' ++ digits
  else
    let size := place.toNat
    let whole := digits.take size ++ List.replicate (size - digits.length) '0'
    let fraction := digits.drop size
    wholeDigits grouping whole ++ '.' :: (if fraction.isEmpty then ['0'] else fraction)

/-- A number by its bits. -/
def binary64Text (bits : Nat) (grouping : Bool := false) : String :=
  let magnitude := magnitudeBits bits
  let sign := if isNegative bits then ['-'] else []
  if infinityBits < magnitude then "nan"
  else if magnitude = infinityBits then String.ofList (sign ++ "inf".toList)
  else if magnitude = 0 then String.ofList (sign ++ "0.0".toList)
  else
    let (digits, place) := shortestDigits magnitude
    String.ofList (sign ++ placedText grouping digits place)

/-- The number without what stands after the point; `none` if it is not finite. -/
def truncated? (bits : Nat) : Option Int :=
  if infinityBits ≤ magnitudeBits bits then none
  else
    let (num, den) := fractionOf bits
    some (if isNegative bits then -(num / den : Nat) else (num / den : Nat))

/-- The least whole number that is not smaller. Beyond all numbers stands one more than the largest
of them. -/
def roundedUp (bits : Nat) : Int :=
  let (num, den) := fractionOf bits
  if isNegative bits then -(num / den : Nat) else ((num + den - 1) / den : Nat)

end SourceFacts.Number
