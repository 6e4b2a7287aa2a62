/-!
# Hexadecimal digits
-/

namespace SourceFacts.Text

/-- The digit of a number below sixteen. -/
def hexDigit (n : Nat) : Char :=
  if n < 10 then Char.ofNat (48 + n) else Char.ofNat (87 + n)

/-- The last `places` hexadecimal digits of a number, the most significant first. -/
def hexPlaces : Nat → Nat → List Char
  | 0, _ => []
  | places + 1, n => hexPlaces places (n / 16) ++ [hexDigit (n % 16)]

theorem length_hexPlaces (places n : Nat) : (hexPlaces places n).length = places := by
  induction places generalizing n with
  | zero => rfl
  | succ places ih => simp [hexPlaces, ih]

/-- The value of a hexadecimal digit of either case. -/
def hexValue? (c : Char) : Option Nat :=
  if '0' ≤ c ∧ c ≤ '9' then some (c.toNat - 48)
  else if 'a' ≤ c ∧ c ≤ 'f' then some (c.toNat - 87)
  else if 'A' ≤ c ∧ c ≤ 'F' then some (c.toNat - 55)
  else none

end SourceFacts.Text
