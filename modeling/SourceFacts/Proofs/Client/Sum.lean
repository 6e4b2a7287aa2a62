import Mathlib.Data.List.Forall2
import Mathlib.Data.Option.Basic
import SourceFacts.Client.Address
import SourceFacts.Proofs.Call.SelfCall
import SourceFacts.Proofs.Syntax.StringText

/-!
# Sums of strings

An address may be a sum. Its text is what its operands add, one after the other, however the sums are
nested; one operand that is no string leaves nothing of it. A placeholder in one operand, or a call of
`format`, makes a template of the whole.
-/

namespace SourceFacts

open StringText

/-! ## Calls of `format` and sums -/

section Read

variable {src : Source} {n : Node}

theorem sumText?_eq (ns : List Node) :
    sumText? src ns = all? ((ns.filter Node.isContent).map (addressText? src)) := by
  induction ns with
  | nil => rfl
  | cons n ns ih =>
      rw [sumText?, ih]
      by_cases hn : n.isContent = true
      · rw [if_pos hn, List.filter_cons_of_pos hn, List.map_cons]
        cases addressText? src n with
        | none => rfl
        | some t => cases h : all? ((ns.filter Node.isContent).map (addressText? src)) <;> simp [all?, h]
      · rw [if_neg hn, List.filter_cons_of_neg hn]

/-- The template that a call of the function makes, if that is the member `format` of a string. -/
def Node.formatted? (src : Source) (function : Node) : Option StringText :=
  if function.kind = "attribute" ∧ src.textOf (function.child? "attribute") = "format" then
    ((function.child? "object").bind (stringText? src)).map fun t => { t with isTemplate := true }
  else none

theorem Node.formatText?_eq (n : Node) :
    n.formatText? src =
      if n.kind = "call" then (n.child? "function").bind (formatted? src) else none := by
  unfold formatText?
  by_cases hkind : n.kind = "call"
  · rw [if_pos hkind, hkind]
    cases n.child? "function" with
    | none => rfl
    | some function =>
        dsimp only [Option.bind_eq_bind, Option.bind_some, formatted?]
        by_cases hformat : function.kind = "attribute" ∧
            src.textOf (function.child? "attribute") = "format"
        · rw [if_pos hformat, hformat.1, hformat.2]
          cases (function.child? "object").bind (stringText? src) <;> rfl
        · rw [if_neg hformat]
          refine Option.bind_eq_none_iff.mpr fun _ _ => Option.bind_eq_none_iff.mpr fun _ hguard => ?_
          rw [Option.guard_eq_some', Bool.and_eq_true, beq_iff_eq, beq_iff_eq] at hguard
          exact absurd hguard hformat
  · rw [if_neg hkind]
    refine Option.bind_eq_none_iff.mpr fun _ hguard => ?_
    rw [Option.guard_eq_some', beq_iff_eq] at hguard
    exact absurd hguard hkind

theorem Node.formatText?_of_kind (h : n.kind ≠ "call") : n.formatText? src = none := by
  rw [formatText?_eq, if_neg h]

/-- A call of the member `format` of a string is a template. -/
theorem Node.formatText?_eq_some_iff {t : StringText} :
    n.formatText? src = some t ↔ n.kind = "call" ∧ ∃ receiver member u,
      n.AppliesMember receiver member ∧ src.text member = "format" ∧ Spells src receiver u ∧
        t = { u with isTemplate := true } := by
  rw [formatText?_eq]
  constructor
  · intro h
    split at h
    · rename_i hkind
      obtain ⟨function, hfunction, h⟩ := Option.bind_eq_some_iff.mp h
      unfold formatted? at h
      split at h
      · rename_i hformat
        obtain ⟨hattribute, hname⟩ := hformat
        obtain ⟨u, hu, rfl⟩ := Option.map_eq_some_iff.mp h
        obtain ⟨receiver, hreceiver, hu⟩ := Option.bind_eq_some_iff.mp hu
        cases hmember : function.child? "attribute" with
        | none =>
            rw [hmember] at hname
            exact absurd hname (by simp [Source.textOf])
        | some member =>
            rw [hmember] at hname
            exact ⟨hkind, receiver, member, u, ⟨function, hfunction, hattribute, hreceiver, hmember⟩,
              hname, stringText?_eq_some_iff.mp hu, rfl⟩
      · exact absurd h (by simp)
    · exact absurd h (by simp)
  · rintro ⟨hkind, receiver, member, u, ⟨function, hfunction, hattribute, hreceiver, hmember⟩, hname,
      hu, rfl⟩
    have htext : src.textOf (some member) = "format" := hname
    rw [if_pos hkind, hfunction, Option.bind_some, formatted?, hmember, if_pos ⟨hattribute, htext⟩,
      hreceiver, Option.bind_some, hu.stringText?]
    rfl

/-- The node is a sum of two operands. -/
def Node.IsSumOf (src : Source) (n a b : Node) : Prop :=
  n.kind = "binary_operator" ∧ n.contents = [a, b] ∧
    ∃ o, n.child? "operator" = some o ∧ src.text o = "+"

theorem Node.isSum_iff : n.isSum src = true ↔ ∃ a b, n.IsSumOf src a b := by
  unfold isSum IsSumOf
  rw [Bool.and_eq_true, Bool.and_eq_true, beq_iff_eq, beq_iff_eq, List.length_eq_two,
    Option.any_eq_true]
  simp only [beq_iff_eq, and_assoc, exists_and_left, exists_and_right]

theorem addressText?_of_sum (h : n.isSum src = true) :
    addressText? src n = all? (n.contents.map (addressText? src)) := by
  obtain ⟨a, b, hkind, _⟩ := Node.isSum_iff.mp h
  have hstring : stringText? src n = none := stringText?_of_kind (by rw [hkind]; decide)
  have hformat : n.formatText? src = none := Node.formatText?_of_kind (by rw [hkind]; decide)
  obtain ⟨l, cs⟩ := n
  rw [addressText?, hstring, hformat, h, sumText?_eq]
  rfl

theorem addressText?_of_string {t : StringText} (h : stringText? src n = some t) :
    addressText? src n = some t := by
  obtain ⟨l, cs⟩ := n
  rw [addressText?, h]
  rfl

theorem addressText?_of_not_sum (h : n.isSum src = false) :
    addressText? src n = (stringText? src n).or (n.formatText? src) := by
  obtain ⟨l, cs⟩ := n
  rw [addressText?, h]
  cases stringText? src (.node l cs) <;> cases Node.formatText? src (.node l cs) <;> rfl

theorem Source.textOf_eq (s : Source) (o : Option Node) : s.textOf o = (o.map s.text).getD "" := by
  cases o <;> rfl

theorem Node.formatted?_congr {src' : Source} {f f' : Node} (hkind : f'.kind = f.kind)
    (hname : (f'.child? "attribute").map src'.text = (f.child? "attribute").map src.text)
    (hobject : (f'.child? "object").bind (stringText? src') =
      (f.child? "object").bind (stringText? src)) : f'.formatted? src' = f.formatted? src := by
  rw [formatted?, formatted?, hkind, Source.textOf_eq, Source.textOf_eq, hname, hobject]

theorem Node.isSum_congr {src' : Source} {n' : Node} (hkind : n'.kind = n.kind)
    (hlength : n'.contents.length = n.contents.length)
    (hsign : (n'.child? "operator").map src'.text = (n.child? "operator").map src.text) :
    n'.isSum src' = n.isSum src := by
  have hany : ∀ (s : Source) (o : Option Node),
      (o.any fun o => s.text o == "+") = (o.map s.text).any (· == "+") := fun s o => by
    cases o <;> rfl
  rw [isSum, isSum, hkind, hlength, hany, hany, hsign]

theorem addressPath_of_some {t : StringText} (h : addressText? src n = some t) :
    addressPath src (some n) =
      (some t.content, if t.isTemplate then .template else .literal) := by
  simp [addressPath, h]

theorem addressPath_of_none (h : addressText? src n = none) :
    addressPath src (some n) = (none, .unresolved) := by
  simp [addressPath, h]

end Read

/-! ## Operands -/

/-- What an operand adds to the text of a sum: the string that it spells, or the one that it formats. -/
inductive OperandText (src : Source) : Node → StringText → Prop where
  | string {n : Node} {t : StringText} (h : Spells src n t) : OperandText src n t
  | format {call receiver member : Node} {t : StringText} (hkind : call.kind = "call")
      (happlies : call.AppliesMember receiver member) (hname : src.text member = "format")
      (h : Spells src receiver t) : OperandText src call { t with isTemplate := true }

/-- The operands of nested sums from left to right. What is not itself a sum is an operand. -/
inductive Operands (src : Source) : Node → List Node → Prop where
  | one {n : Node} (h : ∀ a b, ¬ n.IsSumOf src a b) : Operands src n [n]
  | sum {n a b : Node} {left right : List Node} (h : n.IsSumOf src a b) (ha : Operands src a left)
      (hb : Operands src b right) : Operands src n (left ++ right)

section Operands

variable {src : Source} {n : Node}

theorem operandText_iff (h : ∀ a b, ¬ n.IsSumOf src a b) {t : StringText} :
    addressText? src n = some t ↔ OperandText src n t := by
  have hsum : n.isSum src = false := by
    rw [← Bool.not_eq_true, Node.isSum_iff]
    exact fun ⟨a, b, hab⟩ => h a b hab
  rw [addressText?_of_not_sum hsum, Option.or_eq_some_iff, stringText?_eq_some_iff,
    Node.formatText?_eq_some_iff]
  constructor
  · rintro (hstring | ⟨_, hkind, receiver, member, u, happlies, hname, hu, rfl⟩)
    · exact .string hstring
    · exact .format hkind happlies hname hu
  · intro ht
    cases ht with
    | string hstring => exact Or.inl hstring
    | format hkind happlies hname hu =>
        have hnone : stringText? src n = none := stringText?_of_kind (by rw [hkind]; decide)
        exact Or.inr ⟨hnone, hkind, _, _, _, happlies, hname, hu, rfl⟩

theorem operands_unique {os os' : List Node} (h : Operands src n os) (h' : Operands src n os') :
    os' = os := by
  induction h generalizing os' with
  | one hnot =>
      cases h' with
      | one _ => rfl
      | sum hsum _ _ => exact absurd hsum (hnot _ _)
  | sum hsum _ _ iha ihb =>
      cases h' with
      | one hnot => exact absurd hsum (hnot _ _)
      | sum hsum' ha' hb' =>
          obtain ⟨rfl, rfl⟩ : _ = _ ∧ _ = _ := by simpa using hsum.2.1.symm.trans hsum'.2.1
          rw [iha ha', ihb hb']

theorem exists_operands (src : Source) (n : Node) : ∃ os, Operands src n os := by
  induction n using Node.inductionOnChildren with
  | step n ih =>
  by_cases hsum : ∃ a b, n.IsSumOf src a b
  · obtain ⟨a, b, h⟩ := hsum
    have hmem : ∀ c ∈ [a, b], ∃ os, Operands src c os := fun c hc =>
      ih c (List.mem_filter.mp (h.2.1.symm ▸ hc)).1
    obtain ⟨left, hleft⟩ := hmem a (by simp)
    obtain ⟨right, hright⟩ := hmem b (by simp)
    exact ⟨left ++ right, .sum h hleft hright⟩
  · exact ⟨[n], .one fun a b h => hsum ⟨a, b, h⟩⟩

/-- The text of nested sums is that of the operands, however they are nested. -/
theorem addressText?_operands {os : List Node} (h : Operands src n os) :
    addressText? src n = all? (os.map (addressText? src)) := by
  induction h with
  | one _ => exact (all?_singleton _).symm
  | @sum n a b left right hsum _ _ iha ihb =>
      have hpair : ∀ t u : Option StringText, all? [t, u] = t.bind fun t => u.map t.append := fun t u => by
        rw [← List.singleton_append, all?_append, all?_singleton, all?_singleton]
      rw [addressText?_of_sum (Node.isSum_iff.mpr ⟨a, b, hsum⟩), hsum.2.1, List.map_cons, List.map_singleton,
        hpair, iha, ihb, List.map_append, all?_append]

/-- No operand is a sum. -/
theorem Operands.not_sum {os : List Node} (h : Operands src n os) :
    ∀ o ∈ os, ∀ a b, ¬ o.IsSumOf src a b := by
  induction h with
  | one hnot =>
      intro o ho
      rw [List.mem_singleton.mp ho]
      exact hnot
  | sum _ _ _ iha ihb =>
      intro o ho
      exact (List.mem_append.mp ho).elim (iha o) (ihb o)

theorem map_addressText?_operands {os : List Node} (h : Operands src n os) {ts : List StringText}
    (hts : List.Forall₂ (OperandText src) os ts) : os.map (addressText? src) = ts.map some := by
  have hnot := h.not_sum
  clear h
  induction hts with
  | nil => rfl
  | @cons o t os ts ho _ ih =>
      rw [List.map_cons, List.map_cons, (operandText_iff (hnot o List.mem_cons_self)).mpr ho,
        ih fun o' ho' => hnot o' (List.mem_cons_of_mem o ho')]

/-- The operands add their texts to those of other operands in another source. -/
def SameOperandTexts (src src' : Source) (o o' : Node) : Prop :=
  ∀ t, OperandText src o t ↔ OperandText src' o' t

theorem map_addressText?_same {src' : Source} {os os' : List Node}
    (hnot : ∀ o ∈ os, ∀ a b, ¬ o.IsSumOf src a b) (hnot' : ∀ o ∈ os', ∀ a b, ¬ o.IsSumOf src' a b)
    (hsame : List.Forall₂ (SameOperandTexts src src') os os') :
    os'.map (addressText? src') = os.map (addressText? src) := by
  induction hsame with
  | nil => rfl
  | @cons o o' os os' ho _ ih =>
      have htext : addressText? src' o' = addressText? src o := by
        refine Option.ext fun t => ?_
        rw [operandText_iff (hnot o List.mem_cons_self), operandText_iff (hnot' o' List.mem_cons_self)]
        exact (ho t).symm
      rw [List.map_cons, List.map_cons, htext, ih (fun p hp => hnot p (List.mem_cons_of_mem o hp))
        fun p hp => hnot' p (List.mem_cons_of_mem o' hp)]

end Operands

/-- Every expression has one sequence of operands, and its path is what they add from left to right: a
template exactly when one of them is, and unknown as soon as one of them adds nothing. So sums of
operands that add the same have the same path, however they are nested. -/
theorem sum_reads_operands_in_order (src : Source) (n : Node) :
    ∃ os, Operands src n os ∧ (∀ os', Operands src n os' → os' = os) ∧
      (∀ ts, List.Forall₂ (OperandText src) os ts →
        addressPath src (some n) = (some (String.join (ts.map (·.content))),
          if ts.any (·.isTemplate) then .template else .literal)) ∧
      ((∃ o ∈ os, ∀ t, ¬ OperandText src o t) → addressPath src (some n) = (none, .unresolved)) ∧
      ∀ (src' : Source) (n' : Node) (os' : List Node), Operands src' n' os' →
        List.Forall₂ (SameOperandTexts src src') os os' →
          addressPath src' (some n') = addressPath src (some n) := by
  obtain ⟨os, hos⟩ := exists_operands src n
  refine ⟨os, hos, fun os' => operands_unique hos, ?_, ?_, ?_⟩
  · intro ts hts
    have htext : addressText? src n = some (joined ts) := by
      rw [addressText?_operands hos, map_addressText?_operands hos hts, all?_map_some]
    rw [addressPath_of_some htext]
    rfl
  · rintro ⟨o, ho, hnone⟩
    have htext : addressText? src o = none := by
      refine Option.eq_none_iff_forall_ne_some.mpr fun t ht => hnone t ?_
      exact (operandText_iff (hos.not_sum o ho)).mp ht
    refine addressPath_of_none ?_
    rw [addressText?_operands hos]
    exact all?_eq_none (List.mem_map.mpr ⟨o, ho, htext⟩)
  · intro src' n' os' hos' hsame
    have htexts := map_addressText?_same hos.not_sum hos'.not_sum hsame
    have htext : addressText? src' n' = addressText? src n := by
      rw [addressText?_operands hos, addressText?_operands hos', htexts]
    simp [addressPath, htext]

/-! ## Three operands -/

/-- The tree of a literal whose opening mark ends at an offset. -/
def markedString (start opened stop : Nat) (content : List Node) : Node :=
  .node { kind := "string", start, stop }
    (.node { kind := "string_start", start, stop := opened } [] :: content ++
      [.node { kind := "string_end", start := stop - 1, stop } []])

/-- The tree of a sum with its sign at an offset. -/
def sumAt (sign : Nat) (a b : Node) : Node :=
  .node { kind := "binary_operator", start := a.start, stop := b.stop }
    [a, .node { kind := "+", start := sign, stop := sign + 1, field := some "operator"
                isNamed := false } [], b]

/-- The tree of a call of a member of a literal with one argument of one letter. -/
def formatCall (receiver : Node) (stop : Nat) : Node :=
  .node { kind := "call", start := receiver.start, stop }
    [.node { kind := "attribute", start := receiver.start, stop := stop - 3, field := some "function" }
      [.node { receiver.label with field := some "object" } receiver.children,
       token "." receiver.stop (receiver.stop + 1),
       .node { kind := "identifier", start := receiver.stop + 1, stop := stop - 3
               field := some "attribute" } []],
     .node { kind := "argument_list", start := stop - 3, stop, field := some "arguments" }
      [token "(" (stop - 3) (stop - 2),
       .node { kind := "identifier", start := stop - 2, stop := stop - 1 } [],
       token ")" (stop - 1) stop]]

/-- A literal, a template and a call of `format` have one path, nested to the left and to the right. -/
theorem sum_reads_operands_in_order_three :
    let src := plainSource "\"/a\"+f\"/\x7bb\x7d\"+\"/\x7b\x7d\".format(c)"
    let plain := markedString 0 1 4 [.node { kind := "string_content", start := 1, stop := 3 } []]
    let template := markedString 5 7 12
      [.node { kind := "string_content", start := 7, stop := 8 } [],
       .node { kind := "interpolation", start := 8, stop := 11 } []]
    let formatted := formatCall
      (markedString 13 14 18 [.node { kind := "string_content", start := 14, stop := 17 } []]) 28
    let left := sumAt 12 (sumAt 4 plain template) formatted
    let right := sumAt 4 plain (sumAt 12 template formatted)
    Operands src left [plain, template, formatted] ∧ Operands src right [plain, template, formatted] ∧
    List.Forall₂ (OperandText src) [plain, template, formatted]
      [⟨"/a", false⟩, ⟨"/\x7bb\x7d", true⟩, ⟨"/\x7b\x7d", true⟩] ∧
    addressPath src (some left) = (some "/a/\x7bb\x7d/\x7b\x7d", .template) ∧
    addressPath src (some right) = addressPath src (some left) := by
  intro src plain template formatted left right
  have hone : ∀ o ∈ [plain, template, formatted], Operands src o [o] := by
    intro o ho
    refine .one fun a b h => ?_
    have hkind : o.kind = "string" ∨ o.kind = "call" := by
      simp only [List.mem_cons, List.not_mem_nil, or_false] at ho
      rcases ho with rfl | rfl | rfl
      · exact Or.inl rfl
      · exact Or.inl rfl
      · exact Or.inr rfl
    rcases hkind with hkind | hkind <;> exact absurd (hkind.symm.trans h.1) (by decide)
  have hleft : Operands src left [plain, template, formatted] :=
    .sum ⟨rfl, rfl, _, rfl, by decide +kernel⟩
      (.sum ⟨rfl, rfl, _, rfl, by decide +kernel⟩ (hone plain (by simp)) (hone template (by simp)))
      (hone formatted (by simp))
  have hright : Operands src right [plain, template, formatted] :=
    .sum ⟨rfl, rfl, _, rfl, by decide +kernel⟩ (hone plain (by simp))
      (.sum ⟨rfl, rfl, _, rfl, by decide +kernel⟩ (hone template (by simp)) (hone formatted (by simp)))
  have htexts : List.Forall₂ (OperandText src) [plain, template, formatted]
      [⟨"/a", false⟩, ⟨"/\x7bb\x7d", true⟩, ⟨"/\x7b\x7d", true⟩] :=
    .cons (.string (stringText?_eq_some_iff.mp rfl)) (.cons (.string (stringText?_eq_some_iff.mp rfl))
      (.cons (.format (t := ⟨"/\x7b\x7d", false⟩) rfl ⟨_, rfl, rfl, rfl, rfl⟩ (by decide +kernel)
        (stringText?_eq_some_iff.mp rfl)) .nil))
  obtain ⟨os, _, honly, hpath, _, hsame⟩ := sum_reads_operands_in_order src left
  obtain rfl : [plain, template, formatted] = os := honly _ hleft
  refine ⟨hleft, hright, htexts, (hpath _ htexts).trans (by decide +kernel), ?_⟩
  refine hsame src right _ hright ?_
  exact .cons (fun _ => Iff.rfl) (.cons (fun _ => Iff.rfl) (.cons (fun _ => Iff.rfl) .nil))

end SourceFacts
