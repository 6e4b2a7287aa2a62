import Mathlib.Data.List.Forall2

/-!
# Related lists and options

Where two lists are related element by element, so is what is picked from them by tests that agree on
related elements.
-/

namespace SourceFacts

variable {α β γ : Type} {R : α → β → Prop}

theorem forall₂_with_mem {l : List α} {l' : List β} (h : List.Forall₂ R l l') :
    List.Forall₂ (fun a b => a ∈ l ∧ R a b) l l' := by
  induction h with
  | nil => exact .nil
  | cons hab _ ih =>
      exact .cons ⟨List.mem_cons_self, hab⟩ (ih.imp fun _ _ h => ⟨List.mem_cons_of_mem _ h.1, h.2⟩)

theorem map_eq_of_related {l : List α} {l' : List β} (h : List.Forall₂ R l l') {f : α → γ} {g : β → γ}
    (hfg : ∀ a b, R a b → g b = f a) : l'.map g = l.map f := by
  induction h with
  | nil => rfl
  | cons hab _ ih => rw [List.map_cons, List.map_cons, hfg _ _ hab, ih]

theorem find?_related {l : List α} {l' : List β} (h : List.Forall₂ R l l') {p : α → Bool}
    {q : β → Bool} (hpq : ∀ a b, R a b → q b = p a) : Option.Rel R (l.find? p) (l'.find? q) := by
  induction h with
  | nil => exact .none
  | cons hab _ ih =>
      rw [List.find?_cons, List.find?_cons, hpq _ _ hab]
      split
      · exact .some hab
      · exact ih

theorem filter_related {l : List α} {l' : List β} (h : List.Forall₂ R l l') {p : α → Bool}
    {q : β → Bool} (hpq : ∀ a b, R a b → q b = p a) :
    List.Forall₂ R (l.filter p) (l'.filter q) := by
  induction h with
  | nil => exact .nil
  | cons hab _ ih =>
      rw [List.filter_cons, List.filter_cons, hpq _ _ hab]
      split
      · exact .cons hab ih
      · exact ih

theorem getElem?_related {l : List α} {l' : List β} (h : List.Forall₂ R l l') (i : Nat) :
    Option.Rel R l[i]? l'[i]? := by
  induction h generalizing i with
  | nil => exact .none
  | cons hab _ ih =>
      cases i with
      | zero => exact .some hab
      | succ i => exact ih i

theorem getLast?_related {l : List α} {l' : List β} (h : List.Forall₂ R l l') :
    Option.Rel R l.getLast? l'.getLast? := by
  rw [← List.head?_reverse, ← List.head?_reverse, List.head?_eq_getElem?, List.head?_eq_getElem?]
  exact getElem?_related (List.forall₂_reverse_iff.mpr h) 0

theorem any_eq_of_related {l : List α} {l' : List β} (h : List.Forall₂ R l l') {p : α → Bool}
    {q : β → Bool} (hpq : ∀ a b, R a b → q b = p a) : l'.any q = l.any p := by
  induction h with
  | nil => rfl
  | cons hab _ ih => rw [List.any_cons, List.any_cons, hpq _ _ hab, ih]

theorem orElse_related {a b : Option α} {a' b' : Option β} (ha : Option.Rel R a a')
    (hb : Option.Rel R b b') : Option.Rel R (a <|> b) (a' <|> b') := by
  cases ha with
  | some h => exact .some h
  | none => exact hb

theorem bind_eq_of_related {a : Option α} {a' : Option β} (ha : Option.Rel R a a')
    {f : α → Option γ} {g : β → Option γ} (hfg : ∀ a b, R a b → g b = f a) : a'.bind g = a.bind f := by
  cases ha with
  | some h => exact hfg _ _ h
  | none => rfl

theorem option_map_eq_of_related {a : Option α} {a' : Option β} (ha : Option.Rel R a a') {f : α → γ}
    {g : β → γ} (hfg : ∀ a b, R a b → g b = f a) : a'.map g = a.map f := by
  cases ha with
  | some h => exact congrArg some (hfg _ _ h)
  | none => rfl

theorem option_related_imp {S : α → β → Prop} {a : Option α} {a' : Option β} (ha : Option.Rel R a a')
    (h : ∀ a b, R a b → S a b) : Option.Rel S a a' := by
  cases ha with
  | some hab => exact .some (h _ _ hab)
  | none => exact .none

end SourceFacts
