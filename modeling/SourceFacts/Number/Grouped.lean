/-!
# Numbers with grouped digits

A comma stands before every group of three digits, counted from the right.
-/

namespace SourceFacts.Number

/-- Puts a comma after every third character of digits written from the last one on. -/
def groupReversed : List Char → List Char
  | a :: b :: c :: d :: rest => a :: b :: c :: ',' :: groupReversed (d :: rest)
  | short => short

/-- The number in decimal digits with grouping commas. -/
def grouped (n : Int) : String :=
  let digits := groupReversed (Nat.toDigits 10 n.natAbs).reverse
  String.ofList ((if n < 0 then ['-'] else []) ++ digits.reverse)

end SourceFacts.Number
