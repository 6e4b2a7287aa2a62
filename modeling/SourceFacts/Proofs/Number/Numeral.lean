import Mathlib.Data.List.Forall2
import Mathlib.Data.Nat.Digits.Defs
import SourceFacts.Syntax.Literal

/-!
# Numbers as they are written

A number is written with the digits of a base, the most significant first, among underscores that mean
nothing. Whatever way it is written, the number is read back.
-/

namespace SourceFacts.Number

open SourceFacts.Text

/-- The character is the digit of that value, in either case. -/
def IsDigit (c : Char) (d : Nat) : Prop :=
  c = d.digitChar ∨ c = d.digitChar.toUpper

/-- The characters without underscores. -/
def digitsOf (cs : List Char) : List Char :=
  cs.filter (· != '_')

/-- The characters are digits in a base, the most significant first, and underscores anywhere. -/
def Numeral (base : Nat) (cs : List Char) (n : Nat) : Prop :=
  ∃ ds : List Nat, (∀ d ∈ ds, d < base) ∧ List.Forall₂ IsDigit (digitsOf cs) ds ∧
    n = Nat.ofDigits base ds.reverse

/-- The bases other than ten, with the letters that mark them. -/
def radixMarks : List (Char × Nat) :=
  [('x', 16), ('X', 16), ('o', 8), ('O', 8), ('b', 2), ('B', 2)]

/-- The characters write the number. A decimal number other than zero does not start with a zero. -/
inductive Written : List Char → Nat → Prop where
  | decimal {cs : List Char} {n : Nat} (h : Numeral 10 cs n) (hne : digitsOf cs ≠ [])
      (hlength : (digitsOf cs).length ≤ 4300) (hzero : (digitsOf cs).head? = some '0' → n = 0) :
      Written cs n
  | radix {mark : Char} {base : Nat} {cs : List Char} {n : Nat} (hmark : (mark, base) ∈ radixMarks)
      (h : Numeral base cs n) (hne : digitsOf cs ≠ []) : Written ('0' :: mark :: cs) n

/-! ## Digits -/

section Digit

variable {c : Char} {d : Nat}

theorem IsDigit.value (h : IsDigit c d) (hd : d < 16) : digitValue? c = some d := by
  have hall : ∀ d < 16, digitValue? d.digitChar = some d ∧ digitValue? d.digitChar.toUpper = some d := by
    decide
  rcases h with rfl | rfl
  · exact (hall d hd).1
  · exact (hall d hd).2

/-- The character is neither white space nor a sign. -/
def IsInside (c : Char) : Prop :=
  isMargin c = false ∧ c ≠ '-' ∧ c ≠ '+'

instance (c : Char) : Decidable (IsInside c) :=
  inferInstanceAs (Decidable (_ ∧ _))

theorem IsDigit.isInside (h : IsDigit c d) (hd : d < 16) : IsInside c := by
  have hall : ∀ d < 16, IsInside d.digitChar ∧ IsInside d.digitChar.toUpper := by decide
  rcases h with rfl | rfl
  · exact (hall d hd).1
  · exact (hall d hd).2

theorem IsDigit.notMem_marks (h : IsDigit c d) (hd : d < 10) : c ∉ radixMarks.map (·.1) := by
  have hall : ∀ d < 10, d.digitChar ∉ radixMarks.map (·.1) ∧
      d.digitChar.toUpper ∉ radixMarks.map (·.1) := by
    decide
  rcases h with rfl | rfl
  · exact (hall d hd).1
  · exact (hall d hd).2

theorem IsDigit.eq_zero_char (h : IsDigit c 0) : c = '0' := by
  rcases h with rfl | rfl <;> rfl

end Digit

theorem Numeral.isInside {base : Nat} (hbase : base ≤ 16) {cs : List Char} {n : Nat}
    (h : Numeral base cs n) : ∀ c ∈ digitsOf cs, IsInside c := by
  obtain ⟨ds, hds, hdigits, -⟩ := h
  generalize digitsOf cs = digits at hdigits
  induction hdigits with
  | nil => exact fun c hc => absurd hc List.not_mem_nil
  | @cons c d cs ds hc _ ih =>
      rw [List.forall_mem_cons] at hds ⊢
      exact ⟨hc.isInside (Nat.lt_of_lt_of_le hds.1 hbase), ih hds.2⟩

theorem valueFrom?_of_digits {base : Nat} (hbase : base ≤ 16) {cs : List Char} {ds : List Nat}
    (h : List.Forall₂ IsDigit cs ds) (hds : ∀ d ∈ ds, d < base) (acc : Nat) :
    valueFrom? base acc cs = some (acc * base ^ ds.length + Nat.ofDigits base ds.reverse) := by
  induction h generalizing acc with
  | nil => simp [valueFrom?]
  | @cons c d cs ds hc _ ih =>
      have hd : d < base := hds d List.mem_cons_self
      rw [valueFrom?, hc.value (by omega)]
      dsimp only
      rw [if_pos hd, ih (fun d hd => hds d (List.mem_cons_of_mem _ hd)), List.length_cons,
        Nat.ofDigits_reverse_cons]
      congr 1
      ring

theorem Numeral.value? {base : Nat} (hbase : base ≤ 16) {cs : List Char} {n : Nat}
    (h : Numeral base cs n) (hne : digitsOf cs ≠ []) : value? base (digitsOf cs) = some n := by
  obtain ⟨ds, hds, hdigits, rfl⟩ := h
  rw [Number.value?.eq_2 _ _ hne, valueFrom?_of_digits hbase hdigits hds, Nat.zero_mul, Nat.zero_add]

/-! ## Numbers -/

theorem magnitude?_radix {mark : Char} {base : Nat} (h : (mark, base) ∈ radixMarks) (cs : List Char) :
    magnitude? ('0' :: mark :: cs) = value? base cs := by
  have hzero : isZero '0' = true := by decide
  simp only [radixMarks, List.mem_cons, List.not_mem_nil, or_false, Prod.mk.injEq] at h
  rw [magnitude?, if_pos hzero]
  rcases h with ⟨rfl, rfl⟩ | ⟨rfl, rfl⟩ | ⟨rfl, rfl⟩ | ⟨rfl, rfl⟩ | ⟨rfl, rfl⟩ | ⟨rfl, rfl⟩ <;> rfl

theorem magnitude?_decimal {cs : List Char} {n : Nat} (h : Numeral 10 cs n) (hne : digitsOf cs ≠ [])
    (hlength : (digitsOf cs).length ≤ 4300) (hzero : (digitsOf cs).head? = some '0' → n = 0) :
    magnitude? (digitsOf cs) = some n := by
  have hdecimal : decimal? (digitsOf cs) = some n := by
    rw [decimal?, decimalLimit, if_pos hlength, h.value? (by decide) hne]
  obtain ⟨ds, hds, hdigits, -⟩ := h
  generalize digitsOf cs = digits at *
  cases hdigits with
  | nil => exact absurd rfl hne
  | @cons c d cs ds hc hrest =>
  have hd : d < 10 := hds d List.mem_cons_self
  have hvalue : digitValue? c = some d := hc.value (by omega)
  by_cases hd0 : d = 0
  · subst hd0
    have hn : n = 0 := hzero (by rw [List.head?_cons, hc.eq_zero_char])
    subst hn
    have hisZero : isZero c = true := by simp [isZero, hvalue]
    cases hrest with
    | nil => simp [magnitude?, hisZero]
    | @cons mark d' cs' ds' hmark _ =>
        have hmark := hmark.notMem_marks (hds d' (by simp))
        simp only [radixMarks, List.map_cons, List.map_nil, List.mem_cons, List.not_mem_nil, or_false,
          not_or] at hmark
        simp [magnitude?, hisZero, hmark, hdecimal]
  · have hisZero : isZero c = false := by simp [isZero, hvalue, hd0]
    rw [← hdecimal]
    cases cs <;> simp [magnitude?, hisZero]

theorem trimBoth_of_isInside {cs : List Char} (h : ∀ c ∈ cs, IsInside c) :
    trimBoth isMargin cs = cs := by
  have hdrop : ∀ ds : List Char, (∀ c ∈ ds, IsInside c) → ds.dropWhile isMargin = ds := by
    intro ds hds
    cases ds with
    | nil => rfl
    | cons d ds => rw [List.dropWhile_cons, (hds d List.mem_cons_self).1]; rfl
  rw [trimBoth, hdrop cs h, trimEnd, hdrop _ fun c hc => h c (List.mem_reverse.mp hc),
    List.reverse_reverse]

theorem takeSign_of_isInside {cs : List Char} (h : ∀ c ∈ cs, IsInside c) :
    takeSign cs = (false, cs) := by
  unfold takeSign
  split
  · exact absurd rfl (h '-' List.mem_cons_self).2.1
  · exact absurd rfl (h '+' List.mem_cons_self).2.2
  · rfl

theorem readInteger?_of_isInside {cs : List Char} (h : ∀ c ∈ digitsOf cs, IsInside c) {n : Nat}
    (hn : magnitude? (digitsOf cs) = some n) :
    readInteger? (withoutUnderscores (String.ofList cs)) = some (n : Int) := by
  rw [withoutUnderscores, String.toList_ofList]
  change readInteger? (String.ofList (digitsOf cs)) = _
  rw [readInteger?, String.toList_ofList, trimBoth_of_isInside h, takeSign_of_isInside h]
  simp [hn]

/-- A number is read back from the text that writes it. -/
theorem Written.readInteger? {s : String} {n : Nat} (h : Written s.toList n) :
    readInteger? (withoutUnderscores s) = some (n : Int) := by
  rw [← String.ofList_toList (s := s)]
  generalize s.toList = cs at h
  cases h with
  | decimal h hne hlength hzero =>
      exact readInteger?_of_isInside (h.isInside (by decide))
        (magnitude?_decimal h hne hlength hzero)
  | @radix mark base cs n hmark h hne =>
      have hall : ∀ p ∈ radixMarks, p.2 ≤ 16 ∧ IsInside p.1 ∧ p.1 ≠ '_' := by decide
      obtain ⟨hbase, hinside, hmark'⟩ := hall _ hmark
      have hdigits : digitsOf ('0' :: mark :: cs) = '0' :: mark :: digitsOf cs := by
        simp [digitsOf, hmark']
      refine readInteger?_of_isInside (fun c hc => ?_) ?_
      · rw [hdigits] at hc
        rcases List.mem_cons.mp hc with rfl | hc
        · decide
        rcases List.mem_cons.mp hc with rfl | hc
        · exact hinside
        · exact h.isInside hbase c hc
      · rw [hdigits, magnitude?_radix hmark, h.value? hbase hne]

/-! ## Every number can be written -/

theorem numeral_digits {base : Nat} (hlow : 1 < base) (hhigh : base ≤ 16) (n : Nat) :
    Numeral base ('0' :: (base.digits n).reverse.map Nat.digitChar) n := by
  have hlt : ∀ d ∈ base.digits n, d < base := fun d hd => Nat.digits_lt_base hlow hd
  have hchars : ∀ d < 16, (d.digitChar != '_') = true := by decide
  refine ⟨0 :: (base.digits n).reverse, ?_, ?_, ?_⟩
  · rw [List.forall_mem_cons]
    exact ⟨by omega, fun d hd => hlt d (List.mem_reverse.mp hd)⟩
  · have hdigits : digitsOf ('0' :: (base.digits n).reverse.map Nat.digitChar) =
        (0 :: (base.digits n).reverse).map Nat.digitChar := by
      refine List.filter_eq_self.mpr ?_
      rw [List.forall_mem_cons, List.forall_mem_map]
      exact ⟨rfl, fun d hd => hchars d (Nat.lt_of_lt_of_le (hlt d (List.mem_reverse.mp hd)) hhigh)⟩
    rw [hdigits, List.forall₂_map_left_iff]
    exact List.forall₂_same.mpr fun d _ => .inl rfl
  · rw [List.reverse_cons, List.reverse_reverse, Nat.ofDigits_append_zero, Nat.ofDigits_digits]

theorem exists_written (n : Nat) : ∃ s : String, Written s.toList n := by
  refine ⟨String.ofList ('0' :: 'x' :: '0' :: (Nat.digits 16 n).reverse.map Nat.digitChar), ?_⟩
  rw [String.toList_ofList]
  exact .radix (by decide) (numeral_digits (by decide) (by decide) n) (by simp [digitsOf])

end SourceFacts.Number
