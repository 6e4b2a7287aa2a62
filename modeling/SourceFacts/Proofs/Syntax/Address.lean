import Mathlib.Data.List.Flatten
import Mathlib.Data.List.Infix
import Mathlib.Data.List.Nodup
import SourceFacts.Proofs.Syntax.Path

/-!
# Addresses

An address tells the way down from a node by the numbers of the children. It keeps nodes apart that
look the same. A walk with cuts meets the nodes to which no cut lies on the way.
-/

namespace SourceFacts

/-- A part of a list without repetition is told by its members. -/
theorem filter_eq_of_sublist {α : Type} {p : α → Bool} {part whole : List α}
    (h : part.Sublist whole) (hwhole : whole.Nodup) (hp : ∀ a ∈ whole, p a = true ↔ a ∈ part) :
    whole.filter p = part := by
  induction h with
  | slnil => rfl
  | @cons part rest a h ih =>
      obtain ⟨ha, hrest⟩ := List.nodup_cons.mp hwhole
      have hpa : ¬ p a = true := fun hpa => ha (h.subset ((hp a List.mem_cons_self).mp hpa))
      rw [List.filter_cons_of_neg hpa]
      exact ih hrest fun b hb => hp b (List.mem_cons_of_mem _ hb)
  | @cons_cons part rest a h ih =>
      obtain ⟨ha, hrest⟩ := List.nodup_cons.mp hwhole
      rw [List.filter_cons_of_pos ((hp a List.mem_cons_self).mpr List.mem_cons_self)]
      refine congrArg (a :: ·) (ih hrest fun b hb => ?_)
      have hne : b ≠ a := fun heq => ha (heq ▸ hb)
      rw [hp b (List.mem_cons_of_mem _ hb), List.mem_cons]
      exact or_iff_right hne

namespace Node

/-- What holds of a node if it holds of its children holds of all nodes. -/
@[elab_as_elim]
theorem inductionOnChildren {P : Node → Prop} (step : ∀ n, (∀ c ∈ n.children, P c) → P n)
    (n : Node) : P n := by
  have hsize : ∀ k (m : Node), sizeOf m < k → P m := by
    intro k
    induction k with
    | zero => exact fun m hm => absurd hm (Nat.not_lt_zero _)
    | succ k ih =>
        intro m hm
        cases m with
        | node l cs =>
            refine step _ fun c hc => ih c ?_
            have hlt : sizeOf c < sizeOf cs := List.sizeOf_lt_of_mem hc
            simp only [node.sizeOf_spec] at hm
            omega
  exact hsize _ n (Nat.lt_succ_self _)

/-- The node at an address. -/
def at? : Node → List Nat → Option Node
  | n, [] => some n
  | n, i :: rest => n.children[i]?.bind fun c => c.at? rest

mutual

/-- The nodes from a node on in pre-order, each with its address; `here` is that of the node. -/
def addressed (here : List Nat) : Node → List (List Nat × Node)
  | .node l cs => (here, .node l cs) :: addressedFrom here 0 cs

/-- The nodes from several siblings on, the first of which has the given number. -/
def addressedFrom (here : List Nat) (i : Nat) : List Node → List (List Nat × Node)
  | [] => []
  | n :: ns => addressed (here ++ [i]) n ++ addressedFrom here (i + 1) ns

end

@[simp]
theorem at?_nil (n : Node) : n.at? [] = some n := rfl

theorem at?_cons (n : Node) (i : Nat) (rest : List Nat) :
    n.at? (i :: rest) = n.children[i]?.bind fun c => c.at? rest := rfl

theorem at?_append (n : Node) (p q : List Nat) : n.at? (p ++ q) = (n.at? p).bind (·.at? q) := by
  induction p generalizing n with
  | nil => rfl
  | cons i p ih =>
      rw [List.cons_append, at?_cons, at?_cons]
      cases n.children[i]? with
      | none => rfl
      | some c => exact ih c

theorem addressedFrom_eq_flatMap (here : List Nat) (i : Nat) (ns : List Node) :
    addressedFrom here i ns = (ns.zipIdx i).flatMap fun c => c.1.addressed (here ++ [c.2]) := by
  induction ns generalizing i with
  | nil => rfl
  | cons n ns ih => rw [addressedFrom, ih, List.zipIdx_cons, List.flatMap_cons]

theorem addressed_eq (here : List Nat) (n : Node) :
    n.addressed here =
      (here, n) :: n.children.zipIdx.flatMap fun c => c.1.addressed (here ++ [c.2]) := by
  cases n with
  | node l cs => rw [addressed, addressedFrom_eq_flatMap, children_node]

theorem mem_children_of_mem_zipIdx {n : Node} {c : Node × Nat} (h : c ∈ n.children.zipIdx) :
    c.1 ∈ n.children :=
  List.mem_of_getElem? (List.mem_zipIdx_iff_getElem?.mp h)

theorem pairwise_zipIdx (ns : List Node) : ns.zipIdx.Pairwise fun c d => c.2 ≠ d.2 := by
  rw [← List.pairwise_map, List.zipIdx_map_snd]
  exact List.nodup_range'

theorem flatMap_zipIdx {β : Type} (f : Node → List β) (ns : List Node) :
    (ns.zipIdx.flatMap fun c => f c.1) = ns.flatMap f := by
  conv_rhs => rw [← List.zipIdx_map_fst 0 ns]
  rw [List.flatMap_map]

theorem map_snd_addressed (here : List Nat) (n : Node) :
    (n.addressed here).map (·.2) = n.preorder := by
  induction n using inductionOnChildren generalizing here with
  | step n ih =>
      rw [addressed_eq, preorder_eq, List.map_cons, List.map_flatMap, ← flatMap_zipIdx]
      exact congrArg (n :: ·) (List.flatMap_congr fun c hc =>
        ih c.1 (mem_children_of_mem_zipIdx hc) (here ++ [c.2]))

theorem mem_addressed_iff {here a : List Nat} {n m : Node} :
    (a, m) ∈ n.addressed here ↔ ∃ p, a = here ++ p ∧ n.at? p = some m := by
  induction n using inductionOnChildren generalizing here with
  | step n ih =>
      rw [addressed_eq, List.mem_cons, List.mem_flatMap]
      constructor
      · rintro (heq | ⟨c, hc, hm⟩)
        · cases heq
          exact ⟨[], (List.append_nil _).symm, rfl⟩
        · obtain ⟨p, rfl, hp⟩ := (ih c.1 (mem_children_of_mem_zipIdx hc)).mp hm
          refine ⟨c.2 :: p, by simp, ?_⟩
          rw [at?_cons, List.mem_zipIdx_iff_getElem?.mp hc]
          exact hp
      · rintro ⟨p, rfl, hp⟩
        cases p with
        | nil =>
            cases hp
            exact Or.inl (by rw [List.append_nil])
        | cons i p =>
            obtain ⟨c, hc, hp⟩ := Option.bind_eq_some_iff.mp hp
            refine Or.inr ⟨(c, i), List.mem_zipIdx_iff_getElem?.mpr hc, ?_⟩
            exact (ih c (List.mem_of_getElem? hc)).mpr ⟨p, by simp, hp⟩

theorem prefix_of_mem_addressed {here : List Nat} {n : Node} {e : List Nat × Node}
    (h : e ∈ n.addressed here) : here <+: e.1 := by
  obtain ⟨p, hp, _⟩ := mem_addressed_iff.mp h
  exact hp ▸ List.prefix_append _ _

theorem mem_addressed_nil {n m : Node} {a : List Nat} :
    (a, m) ∈ n.addressed [] ↔ n.at? a = some m := by
  rw [mem_addressed_iff]
  simp

theorem not_prefix_of_ne {here : List Nat} {i j : Nat} {a : List Nat} (hij : i ≠ j)
    (hi : here ++ [i] <+: a) : ¬ here ++ [j] <+: a := by
  intro hj
  have heq : here ++ [i] = here ++ [j] := by
    obtain ⟨x, rfl⟩ := hi
    obtain ⟨y, hy⟩ := hj
    exact (List.append_inj hy (by simp)).1.symm
  simp only [List.append_cancel_left_eq, List.cons.injEq, and_true] at heq
  exact hij heq

theorem nodup_addressed (here : List Nat) (n : Node) : ((n.addressed here).map (·.1)).Nodup := by
  induction n using inductionOnChildren generalizing here with
  | step n ih =>
      rw [addressed_eq, List.map_cons, List.nodup_cons, List.map_flatMap]
      constructor
      · rw [List.mem_flatMap]
        rintro ⟨c, _, hmem⟩
        obtain ⟨e, he, heq⟩ := List.mem_map.mp hmem
        have hlength := (prefix_of_mem_addressed he).length_le
        simp only [heq, List.length_append, List.length_singleton] at hlength
        omega
      · rw [List.nodup_flatMap]
        refine ⟨fun c hc => ih c.1 (mem_children_of_mem_zipIdx hc) _, ?_⟩
        -- Siblings differ in their number, and so do all addresses below them.
        refine (pairwise_zipIdx n.children).imp fun {c d} hne a hc hd => ?_
        obtain ⟨e, he, rfl⟩ := List.mem_map.mp hc
        obtain ⟨e', he', heq⟩ := List.mem_map.mp hd
        exact not_prefix_of_ne hne (prefix_of_mem_addressed he)
          (heq ▸ prefix_of_mem_addressed he')

theorem sublist_addressed {n m : Node} {p : List Nat} (here : List Nat) (h : n.at? p = some m) :
    (m.addressed (here ++ p)).Sublist (n.addressed here) := by
  induction p generalizing n here with
  | nil =>
      cases h
      rw [List.append_nil]
  | cons i p ih =>
      obtain ⟨c, hc, hm⟩ := Option.bind_eq_some_iff.mp h
      have hmem : (c, i) ∈ n.children.zipIdx := List.mem_zipIdx_iff_getElem?.mpr hc
      have hone : [(c, i)].Sublist n.children.zipIdx := List.singleton_sublist.mpr hmem
      rw [addressed_eq here n, List.append_cons]
      refine (ih (here ++ [i]) hm).trans (List.Sublist.cons _ ?_)
      simpa using hone.flatMap fun c => c.1.addressed (here ++ [c.2])

/-- The nodes from a node on are those whose addresses begin with its own. -/
theorem filter_addressed {n m : Node} {p : List Nat} (here : List Nat) (h : n.at? p = some m) :
    (n.addressed here).filter (fun e => decide (here ++ p <+: e.1)) = m.addressed (here ++ p) := by
  refine filter_eq_of_sublist (sublist_addressed here h) (.of_map _ (nodup_addressed here n)) ?_
  rintro ⟨a, x⟩ hmem
  rw [decide_eq_true_iff]
  constructor
  · intro hprefix
    obtain ⟨q, rfl, hq⟩ := mem_addressed_iff.mp hmem
    obtain ⟨q, rfl⟩ := (List.prefix_append_right_inj here).mp hprefix
    rw [at?_append, h] at hq
    exact mem_addressed_iff.mpr ⟨q, by simp, hq⟩
  · exact prefix_of_mem_addressed

theorem addressed_eq_map (here : List Nat) (n : Node) :
    n.addressed here = (n.addressed []).map fun e => (here ++ e.1, e.2) := by
  induction n using inductionOnChildren generalizing here with
  | step n ih =>
      rw [addressed_eq, addressed_eq [], List.map_cons, List.append_nil, List.map_flatMap]
      refine congrArg ((here, n) :: ·) (List.flatMap_congr fun c hc => ?_)
      have hc := mem_children_of_mem_zipIdx hc
      rw [ih c.1 hc, ih c.1 hc ([] ++ [c.2]), List.map_map]
      simp [Function.comp_def]

/-! ## Children in a role -/

/-- The child with a number is the first one in a role. -/
def FirstAt (n : Node) (f : String) (i : Nat) (c : Node) : Prop :=
  n.children[i]? = some c ∧ c.hasField f = true ∧
    ∀ j < i, ∀ b, n.children[j]? = some b → b.hasField f = false

/-- The first child in a role, with its number. -/
def firstAt? (n : Node) (f : String) : Option (Node × Nat) :=
  n.children.zipIdx.find? fun c => c.1.hasField f

theorem firstAt?_eq_some_iff {n c : Node} {f : String} {i : Nat} :
    n.firstAt? f = some (c, i) ↔ n.FirstAt f i c := by
  unfold firstAt? FirstAt
  rw [List.find?_eq_some_iff_getElem]
  constructor
  · rintro ⟨hf, k, hk, heq, hbefore⟩
    have hlength : k < n.children.length := by simpa using hk
    obtain ⟨rfl, rfl⟩ : n.children[k] = c ∧ k = i := by simpa using heq
    refine ⟨List.getElem?_eq_getElem _, hf, fun j hj b hb => ?_⟩
    obtain ⟨_, rfl⟩ := List.getElem?_eq_some_iff.mp hb
    simpa using hbefore j hj
  · rintro ⟨hc, hf, hbefore⟩
    obtain ⟨hi, rfl⟩ := List.getElem?_eq_some_iff.mp hc
    refine ⟨hf, i, by simpa using hi, by simp, fun j hj => ?_⟩
    simpa using hbefore j hj _ (List.getElem?_eq_getElem (Nat.lt_trans hj hi))

theorem map_fst_firstAt? (n : Node) (f : String) : (n.firstAt? f).map (·.1) = n.child? f := by
  unfold firstAt? child?
  conv_rhs => rw [← List.zipIdx_map_fst 0 n.children]
  rw [List.find?_map]
  rfl

/-! ## Walks -/

/-- No node that is cut off lies on the way down to an address, its two ends apart. -/
def Clear (cut : Node → Bool) (n : Node) (p : List Nat) : Prop :=
  ∀ q ∈ p.inits, q ≠ [] → q ≠ p → (n.at? q).any cut = false

instance (cut : Node → Bool) (n : Node) (p : List Nat) : Decidable (Clear cut n p) :=
  inferInstanceAs (Decidable (∀ q ∈ p.inits, _))

@[simp]
theorem clear_nil (cut : Node → Bool) (n : Node) : Clear cut n [] := by
  simp [Clear]

/-- The way to what lies below a child leads through the child. -/
theorem clear_cons_iff {cut : Node → Bool} {n c : Node} {i : Nat} (hc : n.children[i]? = some c)
    (p : List Nat) : Clear cut n (i :: p) ↔ p = [] ∨ cut c = false ∧ Clear cut c p := by
  have hat : ∀ q, n.at? (i :: q) = c.at? q := fun q => by rw [at?_cons, hc, Option.bind_some]
  unfold Clear
  simp only [List.inits_cons, List.mem_cons, List.mem_map, forall_eq_or_imp, ne_eq,
    not_true_eq_false, false_imp_iff, true_and, forall_exists_index, and_imp,
    forall_apply_eq_imp_iff₂, reduceCtorEq, not_false_eq_true, forall_true_left, List.cons.injEq, hat]
  constructor
  · intro h
    refine or_iff_not_imp_left.mpr fun hp => ⟨?_, fun q hq _ => h q hq⟩
    simpa using h [] (by simp) (Ne.symm hp)
  · rintro (rfl | ⟨hcut, h⟩) q hq hne
    · simp_all
    · by_cases hnil : q = []
      · subst hnil
        simpa using hcut
      · exact h q hq hnil hne

/-- A walk meets the nodes with nothing cut off on the way to them. -/
theorem walk_eq_filter (cut : Node → Bool) (n : Node) :
    n.walk cut = ((n.addressed []).filter fun e => decide (Clear cut n e.1)).map (·.2) := by
  induction n using inductionOnChildren with
  | step n ih =>
      rw [walk, walkAll_eq_flatMap, ← flatMap_zipIdx, addressed_eq,
        List.filter_cons_of_pos (by simp), List.map_cons, List.filter_flatMap, List.map_flatMap]
      refine congrArg (n :: ·) (List.flatMap_congr fun c hc => ?_)
      have hclear := @clear_cons_iff cut n _ _ (List.mem_zipIdx_iff_getElem?.mp hc)
      rw [addressed_eq_map, List.filter_map, List.map_map]
      simp only [Function.comp_def, List.nil_append, List.singleton_append, hclear]
      cases hcut : cut c.1 with
      | false =>
          rw [walkBelow_of_not_cut cut c.1 hcut, ih c.1 (mem_children_of_mem_zipIdx hc)]
          refine congrArg (List.map _) (List.filter_congr fun e _ => decide_eq_decide.mpr ?_)
          constructor
          · exact fun h => Or.inr ⟨rfl, h⟩
          · rintro (hnil | h)
            · rw [hnil]
              exact clear_nil cut c.1
            · exact h.2
      | true =>
          -- Only the child itself is met.
          have hnone : ∀ e ∈ c.1.children.zipIdx.flatMap (fun d => d.1.addressed ([] ++ [d.2])),
              ¬ decide (e.1 = [] ∨ true = false ∧ Clear cut c.1 e.1) = true := by
            intro e he
            obtain ⟨d, _, he⟩ := List.mem_flatMap.mp he
            have hlength := (prefix_of_mem_addressed he).length_le
            simp only [decide_eq_true_eq, reduceCtorEq, false_and, or_false]
            intro hnil
            simp [hnil] at hlength
          have hwalk : walkBelow cut c.1 = [c.1] := by
            rw [← eta c.1] at hcut ⊢
            simp [walkBelow, hcut]
          rw [hwalk, addressed_eq, List.filter_cons_of_pos (by simp),
            List.filter_eq_nil_iff.mpr hnone]
          rfl

/-- The same walk seen from a node above its start. -/
theorem walk_eq_filter_of_at? (cut : Node → Bool) {root n : Node} {p : List Nat}
    (h : root.at? p = some n) :
    n.walk cut = ((root.addressed []).filter fun e => decide (p <+: e.1 ∧
      ∀ q ∈ e.1.inits, p <+: q → q ≠ p → q ≠ e.1 → (root.at? q).any cut = false)).map (·.2) := by
  have hclear : ∀ r, Clear cut n r ↔ ∀ q ∈ (p ++ r).inits, p <+: q → q ≠ p → q ≠ p ++ r →
      (root.at? q).any cut = false := by
    have hat : ∀ q, root.at? (p ++ q) = n.at? q := fun q => by rw [at?_append, h, Option.bind_some]
    intro r
    constructor
    · rintro hr _ hq ⟨q, rfl⟩ hne hne'
      rw [List.mem_inits, List.prefix_append_right_inj] at hq
      rw [hat]
      exact hr q ((List.mem_inits _ _).mpr hq) (by simpa using hne) (by simpa using hne')
    · intro hr q hq hne hne'
      rw [← hat]
      refine hr (p ++ q) ?_ (List.prefix_append ..) (by simpa using hne) (by simpa using hne')
      exact (List.mem_inits _ _).mpr ((List.prefix_append_right_inj p).mpr ((List.mem_inits _ _).mp hq))
  have hbelow := filter_addressed [] h
  rw [List.nil_append] at hbelow
  simp only [Bool.decide_and, fun e : List Nat × Node => Bool.and_comm (decide (p <+: e.1))]
  rw [← List.filter_filter, hbelow, addressed_eq_map, List.filter_map, List.map_map, walk_eq_filter]
  exact congrArg (List.map Prod.snd)
    (List.filter_congr fun e _ => decide_eq_decide.mpr (hclear e.1))

end Node

end SourceFacts
