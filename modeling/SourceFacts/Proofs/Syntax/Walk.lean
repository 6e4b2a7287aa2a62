import Mathlib.Logic.Function.Iterate
import SourceFacts.Proofs.Syntax.Address

/-!
# Walks with a stack

A walk needs no recursion. It keeps a stack of the nodes that wait: the last one is taken and met, and
its children are put on the stack, the first of them last. Below the start, nothing is put on the stack
for a node that is cut off. The nodes met so far are always the first ones of the pruned pre-order, and
the stack runs empty when all of it has been met.
-/

namespace SourceFacts.Node

/-- The walk does not go below a place: there is a test, the place is not the start, and the test cuts
off its node. -/
def stopsAt (cut? : Option (Node → Bool)) (start : List Nat) (place : List Nat × Node) : Bool :=
  cut?.any fun cut => decide (place.1 ≠ start) && cut place.2

/-- The children of the node at a place, with their addresses. -/
def childPlaces (place : List Nat × Node) : List (List Nat × Node) :=
  place.2.children.zipIdx.map fun c => (place.1 ++ [c.2], c.1)

/-- A walk under way. -/
structure Walk where
  /-- The places that wait, the next one last. -/
  stack : List (List Nat × Node)
  met : List (List Nat × Node) := []

/-- One turn of a walk. A walk without places that wait has ended. -/
def Walk.turn (cut? : Option (Node → Bool)) (start : List Nat) (w : Walk) : Walk :=
  match w.stack.getLast? with
  | none => w
  | some place =>
    { stack := w.stack.dropLast ++ if stopsAt cut? start place then [] else (childPlaces place).reverse
      met := w.met ++ [place] }

/-- The address lies below the start or is the start, and no node on the way there is cut off, the start
and the node itself apart. -/
def Reached (cut? : Option (Node → Bool)) (root : Node) (start a : List Nat) : Prop :=
  start <+: a ∧ ∀ q ∈ a.inits, start <+: q → q ≠ start → q ≠ a →
    (root.at? q).any (cut?.getD fun _ => false) = false

instance (cut? : Option (Node → Bool)) (root : Node) (start a : List Nat) :
    Decidable (Reached cut? root start a) :=
  inferInstanceAs (Decidable (_ ∧ _))

section Left

variable (cut? : Option (Node → Bool)) (root : Node) (start : List Nat)

/-- No place from an address on stops the walk before it comes to another address. -/
def ClearFrom (here a : List Nat) : Prop :=
  ∀ q ∈ a.inits, here <+: q → q ≠ a → (root.at? q).any (fun m => stopsAt cut? start (q, m)) = false

instance (here a : List Nat) : Decidable (ClearFrom cut? root start here a) :=
  inferInstanceAs (Decidable (∀ q ∈ a.inits, _))

/-- What a walk meets from a place on. -/
def leftFrom (place : List Nat × Node) : List (List Nat × Node) :=
  (place.2.addressed place.1).filter fun e => decide (ClearFrom cut? root start place.1 e.1)

variable {cut? root start}

theorem clearFrom_self (a : List Nat) : ClearFrom cut? root start a a := by
  intro q hq hbegins hne
  exact absurd (((List.mem_inits _ _).mp hq).eq_of_length_le hbegins.length_le) hne

/-- The way to what lies below a child leads through the node and then through the child. -/
theorem clearFrom_child_iff {here a : List Nat} {i : Nat} {n : Node} (hat : root.at? here = some n)
    (ha : here ++ [i] <+: a) :
    ClearFrom cut? root start here a ↔
      stopsAt cut? start (here, n) = false ∧ ClearFrom cut? root start (here ++ [i]) a := by
  have hhere : here <+: a := (List.prefix_append here [i]).trans ha
  have hlength := ha.length_le
  rw [List.length_append, List.length_singleton] at hlength
  constructor
  · intro h
    refine ⟨?_, fun q hq hchild => h q hq ((List.prefix_append here [i]).trans hchild)⟩
    have hstop := h here ((List.mem_inits _ _).mpr hhere) List.prefix_rfl fun heq => by
      rw [heq] at hlength
      omega
    rwa [hat, Option.any_some] at hstop
  · rintro ⟨hstop, h⟩ q hq hbegins hne
    by_cases heq : q = here
    · rw [heq, hat, Option.any_some]
      exact hstop
    · -- What is longer than the address of the node on the way begins with that of the child.
      have hlt : here.length < q.length :=
        Nat.lt_of_le_of_ne hbegins.length_le fun hl => heq (hbegins.eq_of_length hl).symm
      refine h q hq (List.prefix_of_prefix_length_le ha ((List.mem_inits _ _).mp hq) ?_) hne
      rw [List.length_append, List.length_singleton]
      exact hlt

/-- From a place on, the walk meets its node, and unless it stops there what it meets from the children
on. -/
theorem leftFrom_eq {place : List Nat × Node} (hat : root.at? place.1 = some place.2) :
    leftFrom cut? root start place =
      place :: if stopsAt cut? start place then [] else
        (childPlaces place).flatMap (leftFrom cut? root start) := by
  obtain ⟨here, n⟩ := place
  have hchild : ∀ c ∈ n.children.zipIdx,
      (c.1.addressed (here ++ [c.2])).filter (fun e => decide (ClearFrom cut? root start here e.1)) =
        if stopsAt cut? start (here, n) then [] else
          leftFrom cut? root start (here ++ [c.2], c.1) := by
    intro c _
    have hiff : ∀ e ∈ c.1.addressed (here ++ [c.2]), ClearFrom cut? root start here e.1 ↔
        stopsAt cut? start (here, n) = false ∧ ClearFrom cut? root start (here ++ [c.2]) e.1 :=
      fun e he => clearFrom_child_iff hat (prefix_of_mem_addressed he)
    cases hstop : stopsAt cut? start (here, n) with
    | true =>
        refine List.filter_eq_nil_iff.mpr fun e he => ?_
        simp [hiff e he, hstop]
    | false =>
        refine List.filter_congr fun e he => ?_
        simp [hiff e he, hstop]
  rw [leftFrom, addressed_eq, List.filter_cons_of_pos (by simpa using clearFrom_self here),
    List.filter_flatMap, List.flatMap_congr hchild]
  cases stopsAt cut? start (here, n) with
  | true => simp
  | false => simp [childPlaces, List.flatMap_map]

theorem at?_of_mem_childPlaces {place c : List Nat × Node} (hat : root.at? place.1 = some place.2)
    (hc : c ∈ childPlaces place) : root.at? c.1 = some c.2 := by
  obtain ⟨⟨m, i⟩, hm, rfl⟩ := List.mem_map.mp hc
  rw [at?_append, hat, Option.bind_some, at?_cons, List.mem_zipIdx_iff_getElem?.mp hm]
  rfl

end Left

/-! ## A turn and a run -/

namespace Walk

variable (cut? : Option (Node → Bool)) (root : Node) (start : List Nat)

/-- The places that have been met and those that will be. -/
def outcome (w : Walk) : List (List Nat × Node) :=
  w.met ++ w.stack.reverse.flatMap (leftFrom cut? root start)

/-- After so many turns the walk has met as many places of the list, or all of them, and what it still
will meet is the rest of the list. -/
structure Meets (whole : List (List Nat × Node)) (turns : Nat) (w : Walk) : Prop where
  places : ∀ e ∈ w.stack, root.at? e.1 = some e.2
  outcome_eq : w.outcome cut? root start = whole
  length_met : w.met.length = min turns whole.length

variable {cut? root start} {w : Walk} {whole : List (List Nat × Node)} {turns : Nat}

theorem turn_nil (met : List (List Nat × Node)) :
    turn cut? start ⟨[], met⟩ = ⟨[], met⟩ := rfl

theorem turn_concat (rest met : List (List Nat × Node)) (place : List Nat × Node) :
    turn cut? start ⟨rest ++ [place], met⟩ =
      ⟨rest ++ if stopsAt cut? start place then [] else (childPlaces place).reverse,
        met ++ [place]⟩ := by
  simp [turn]

/-- A turn changes nothing in the outcome. -/
theorem outcome_turn_concat {rest met : List (List Nat × Node)} {place : List Nat × Node}
    (hat : root.at? place.1 = some place.2) :
    (turn cut? start ⟨rest ++ [place], met⟩).outcome cut? root start =
      outcome cut? root start ⟨rest ++ [place], met⟩ := by
  rw [turn_concat]
  simp only [outcome, List.reverse_append, List.reverse_singleton, List.flatMap_append,
    List.flatMap_singleton, leftFrom_eq hat]
  split <;> simp

theorem length_met_lt {rest met : List (List Nat × Node)} {place : List Nat × Node}
    (hat : root.at? place.1 = some place.2) :
    met.length < (outcome cut? root start ⟨rest ++ [place], met⟩).length := by
  simp [outcome, leftFrom_eq hat]

theorem Meets.step (h : Meets cut? root start whole turns w) :
    Meets cut? root start whole (turns + 1) (turn cut? start w) := by
  obtain ⟨hplaces, houtcome, hlength⟩ := h
  obtain ⟨stack, met⟩ := w
  induction stack using List.reverseRecOn with
  | nil =>
      -- Everything has been met, and more turns change nothing.
      have hmet : met = whole := by simpa [outcome] using houtcome
      rw [turn_nil]
      refine ⟨hplaces, houtcome, ?_⟩
      subst hmet
      dsimp only at hlength ⊢
      omega
  | append_singleton rest place _ =>
      have hat := hplaces place (by simp)
      refine ⟨?_, (outcome_turn_concat hat).trans houtcome, ?_⟩
      · intro e he
        rw [turn_concat] at he
        rcases List.mem_append.mp he with hrest | hchild
        · exact hplaces e (List.mem_append_left _ hrest)
        · split at hchild
          · exact absurd hchild List.not_mem_nil
          · exact at?_of_mem_childPlaces hat (List.mem_reverse.mp hchild)
      · have hlt := houtcome ▸ length_met_lt hat
        rw [turn_concat, List.length_append, List.length_singleton]
        dsimp only at hlength
        omega

theorem Meets.run (h : Meets cut? root start whole 0 w) (turns : Nat) :
    Meets cut? root start whole turns ((turn cut? start)^[turns] w) := by
  induction turns with
  | zero => exact h
  | succ turns ih =>
      rw [Function.iterate_succ_apply']
      exact ih.step

theorem Meets.met_eq (h : Meets cut? root start whole turns w) : w.met = whole.take turns := by
  have hbegins : w.met <+: whole := h.outcome_eq ▸ List.prefix_append ..
  rw [List.prefix_iff_eq_take.mp hbegins, h.length_met, List.take_eq_take_iff]
  omega

theorem Meets.stack_eq_nil_iff (h : Meets cut? root start whole turns w) :
    w.stack = [] ↔ whole.length ≤ turns := by
  obtain ⟨hplaces, houtcome, hlength⟩ := h
  obtain ⟨stack, met⟩ := w
  dsimp only at hlength
  induction stack using List.reverseRecOn with
  | nil =>
      have hmet : met = whole := by simpa [outcome] using houtcome
      refine iff_of_true rfl ?_
      rw [hmet] at hlength
      omega
  | append_singleton rest place _ =>
      have hlt := houtcome ▸ length_met_lt (hplaces place (by simp))
      refine iff_of_false (by simp) ?_
      omega

end Walk

/-! ## What a walk meets -/

section Met

variable {cut? : Option (Node → Bool)} {root n : Node} {start : List Nat}

/-- The places that a walk reaches from a start, in pre-order. -/
def reachedPlaces (cut? : Option (Node → Bool)) (root : Node) (start : List Nat) :
    List (List Nat × Node) :=
  (root.addressed []).filter fun e => decide (Reached cut? root start e.1)

theorem clearFrom_start_iff {a : List Nat} :
    start <+: a ∧ ClearFrom cut? root start start a ↔ Reached cut? root start a := by
  refine and_congr_right fun _ => forall_congr' fun q => forall_congr' fun _ => forall_congr' fun _ => ?_
  cases cut? with
  | none => simp [stopsAt]
  | some cut =>
      by_cases hstart : q = start
      · simp [stopsAt, hstart]
      · simp [stopsAt, hstart]

theorem leftFrom_start (h : root.at? start = some n) :
    leftFrom cut? root start (start, n) = reachedPlaces cut? root start := by
  have hbelow := filter_addressed [] h
  rw [List.nil_append] at hbelow
  unfold reachedPlaces
  simp only [← clearFrom_start_iff, Bool.decide_and,
    fun e : List Nat × Node => Bool.and_comm (decide (start <+: e.1))]
  rw [← List.filter_filter, hbelow]
  rfl

theorem map_snd_reachedPlaces (h : root.at? start = some n) :
    (reachedPlaces cut? root start).map (·.2) = n.walk (cut?.getD fun _ => false) :=
  (walk_eq_filter_of_at? _ h).symm

theorem reachedPlaces_none (h : root.at? start = some n) :
    reachedPlaces none root start = n.addressed start := by
  rw [← leftFrom_start h, leftFrom]
  refine List.filter_eq_self.mpr fun e _ => ?_
  simp [ClearFrom, stopsAt]

theorem mem_reachedPlaces_iff {a : List Nat} {m : Node} :
    (a, m) ∈ reachedPlaces cut? root start ↔ root.at? a = some m ∧ Reached cut? root start a := by
  rw [reachedPlaces, List.mem_filter, mem_addressed_nil, decide_eq_true_iff]

theorem meets_start (h : root.at? start = some n) :
    Walk.Meets cut? root start (reachedPlaces cut? root start) 0 ⟨[(start, n)], []⟩ where
  places := by simpa using h
  outcome_eq := by simp [Walk.outcome, leftFrom_start h]
  length_met := by simp

end Met

/-- A walk from any node of a tree, with or without a test, meets one place at each turn, and its stack
runs empty when all of them are met. They are the nodes from the start on above which nothing is cut off,
the start apart, each once by its address and in the order of the recursive walk; without a test they are
all nodes from the start on. -/
theorem stack_walk_prunes_preorder (cut? : Option (Node → Bool)) (root n : Node) (start : List Nat)
    (h : root.at? start = some n) :
    (∀ turns,
      ((Walk.turn cut? start)^[turns] ⟨[(start, n)], []⟩).met =
        (reachedPlaces cut? root start).take turns ∧
      (((Walk.turn cut? start)^[turns] ⟨[(start, n)], []⟩).stack = [] ↔
        (reachedPlaces cut? root start).length ≤ turns)) ∧
    (reachedPlaces cut? root start).map (·.2) = n.walk (cut?.getD fun _ => false) ∧
    (∀ a m, (a, m) ∈ reachedPlaces cut? root start ↔
      root.at? a = some m ∧ Reached cut? root start a) ∧
    ((reachedPlaces cut? root start).map (·.1)).Nodup ∧
    (cut? = none → reachedPlaces cut? root start = n.addressed start ∧
      (n.addressed start).map (·.2) = n.preorder) := by
  refine ⟨fun turns => ?_, map_snd_reachedPlaces h, fun a m => mem_reachedPlaces_iff, ?_, ?_⟩
  · have hmeets := (@meets_start cut? root n start h).run turns
    exact ⟨hmeets.met_eq, hmeets.stack_eq_nil_iff⟩
  · exact (nodup_addressed [] root).sublist (List.filter_sublist.map _)
  · rintro rfl
    exact ⟨reachedPlaces_none h, map_snd_addressed start n⟩

/-- A node that is cut off but for being the start: one more of its kind in it, with something below, and
two children that look the same. -/
def startOfWalk : Node :=
  .node { kind := "block", start := 0, stop := 3 }
    [.node { kind := "block", start := 0, stop := 1 } [token "x" 0 1], token "y" 1 2, token "y" 1 2]

theorem stack_walk_prunes_preorder_twins :
    let cut? : Option (Node → Bool) := some fun n => n.kind == "block"
    let root := Node.node { kind := "module", start := 0, stop := 3 } [token "z" 0 0, startOfWalk]
    let walk := (Walk.turn cut? [1])^[4] ⟨[([1], startOfWalk)], []⟩
    root.at? [1] = some startOfWalk ∧ walk.stack = [] ∧
      walk.met.map (·.1) = [[1], [1, 0], [1, 1], [1, 2]] := by
  intro cut? root walk
  have hat : root.at? [1] = some startOfWalk := rfl
  obtain ⟨hturns, -⟩ := stack_walk_prunes_preorder cut? root startOfWalk [1] hat
  obtain ⟨hmet, hstack⟩ := hturns 4
  have hplaces : (reachedPlaces cut? root [1]).map (·.1) = [[1], [1, 0], [1, 1], [1, 2]] := by decide
  have hlength : (reachedPlaces cut? root [1]).length = 4 := by
    simpa using congrArg List.length hplaces
  refine ⟨hat, hstack.mpr (Nat.le_of_eq hlength), ?_⟩
  rw [hmet, List.take_of_length_le (Nat.le_of_eq hlength), hplaces]

end SourceFacts.Node
