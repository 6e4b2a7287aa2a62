import Mathlib.Data.List.Perm.Subperm
import SourceFacts.Proofs.Call.ScopeLoop

/-!
# Loops on any table

The tables of a file lead out of every scope. A table as such need not: a symbol can be its own parent, and
a loop over the scopes around it may then go on for ever. Each turn after the first looks up a name of the
table, and a name that comes back comes back again and again. So a loop that ends at all does so after as many
turns as there are names, and one more; it has then looked at the chain of its scope, cut as that may be.
-/

namespace SourceFacts

namespace SymbolIndex

variable (index : SymbolIndex) (passes : Symbol → Bool)

/-- A loop that passes by the scopes with a property is still on its way after so many turns. -/
def lasts : (turns : Nat) → Option Symbol → Bool
  | _, none => false
  | 0, some _ => true
  | turns + 1, some s => passes s && lasts turns (index.get? s.parent)

/-- The way outward from a scope comes to an end. -/
def Ends (scope : Option Symbol) : Prop :=
  ∃ chain, index.Outward scope chain

variable {index passes}

@[simp]
theorem lasts_none (turns : Nat) : index.lasts passes turns none = false := by
  cases turns <;> rfl

theorem lasts_succ_some {turns : Nat} {s : Symbol} :
    index.lasts passes (turns + 1) (some s) = true ↔
      passes s = true ∧ index.lasts passes turns (index.get? s.parent) = true := by
  rw [lasts, Bool.and_eq_true]

theorem lasts_of_succ {turns : Nat} {scope : Option Symbol}
    (h : index.lasts passes (turns + 1) scope = true) : index.lasts passes turns scope = true := by
  induction turns generalizing scope with
  | zero =>
      cases scope with
      | none => exact h
      | some s => rfl
  | succ turns ih =>
      cases scope with
      | none => exact h
      | some s =>
          obtain ⟨hpasses, hrest⟩ := lasts_succ_some.mp h
          exact lasts_succ_some.mpr ⟨hpasses, ih hrest⟩

theorem lasts_of_le {turns turns' : Nat} (hle : turns ≤ turns') {scope : Option Symbol}
    (h : index.lasts passes turns' scope = true) : index.lasts passes turns scope = true := by
  induction hle with
  | refl => exact h
  | step _ ih => exact ih (lasts_of_succ h)

theorem exists_name {name : Option String} {turns : Nat}
    (h : index.lasts passes turns (index.get? name) = true) :
    ∃ q t, name = some q ∧ q ∈ index.byName.keys ∧ index.get? (some q) = some t := by
  cases hget : index.get? name with
  | none =>
      rw [hget, lasts_none] at h
      cases h
  | some t =>
      obtain ⟨q, rfl, hq⟩ := Option.bind_eq_some_iff.mp hget
      exact ⟨q, t, rfl, List.mem_map.mpr ⟨_, Dictionary.mem_entries_of_get? hq, rfl⟩, hget⟩

/-- A loop that ends with a turn and not before has come by a new name at each turn. -/
theorem exists_names {turns : Nat} {name : Option String}
    (hlasts : index.lasts passes turns (index.get? name) = true)
    (hends : index.lasts passes (turns + 1) (index.get? name) = false) :
    ∃ names : List String, names.length = turns + 1 ∧ names.Nodup ∧
      ∀ q ∈ names, q ∈ index.byName.keys ∧
        index.lasts passes (turns + 1) (index.get? (some q)) = false := by
  -- The names behind the first one end one turn earlier, which the first one does not.
  induction turns generalizing name with
  | zero =>
      obtain ⟨q, t, rfl, hq, _⟩ := exists_name hlasts
      exact ⟨[q], rfl, List.nodup_singleton q, by simpa using ⟨hq, hends⟩⟩
  | succ turns ih =>
      obtain ⟨q, t, rfl, hq, ht⟩ := exists_name hlasts
      rw [ht] at hlasts hends
      obtain ⟨hpasses, hrest⟩ := lasts_succ_some.mp hlasts
      rw [lasts, hpasses, Bool.true_and] at hends
      obtain ⟨names, hlength, hnodup, hnames⟩ := ih hrest hends
      refine ⟨q :: names, by rw [List.length_cons, hlength], List.nodup_cons.mpr ⟨?_, hnodup⟩, ?_⟩
      · intro hmem
        have hfalse := (hnames q hmem).2
        rw [ht, hlasts] at hfalse
        cases hfalse
      · have hlater : ∀ scope, index.lasts passes (turns + 1) scope = false →
            index.lasts passes (turns + 2) scope = false := fun scope h =>
          Bool.eq_false_iff.mpr fun htrue => Bool.eq_false_iff.mp h (lasts_of_succ htrue)
        rintro p (_ | ⟨_, hp⟩)
        · exact ⟨hq, by rw [ht, lasts, hpasses, Bool.true_and]; exact hends⟩
        · exact ⟨(hnames p hp).1, hlater _ (hnames p hp).2⟩

/-- From a name on, a loop that ends needs no more turns than there are names. -/
theorem lasts_names {turns : Nat} {name : Option String}
    (hends : index.lasts passes turns (index.get? name) = false) :
    index.lasts passes index.byName.entries.length (index.get? name) = false := by
  rw [Bool.eq_false_iff] at hends ⊢
  intro hlasts
  induction turns with
  | zero => exact hends (lasts_of_le (Nat.zero_le _) hlasts)
  | succ turns ih =>
      cases hbefore : index.lasts passes turns (index.get? name) with
      | false => exact ih (Bool.eq_false_iff.mp hbefore)
      | true =>
          obtain ⟨names, hlength, hnodup, hnames⟩ := exists_names hbefore (Bool.eq_false_iff.mpr hends)
          have hle := (List.subperm_of_subset hnodup fun q hq => (hnames q hq).1).length_le
          rw [hlength, Dictionary.keys, List.length_map] at hle
          exact hends (lasts_of_le hle hlasts)

/-- A way outward that ends passes no more scopes than the table has names, and the first one. -/
theorem Ends.lasts_eq_false {scope : Option Symbol} (h : index.Ends scope) :
    index.lasts (fun _ => true) (index.byName.entries.length + 1) scope = false := by
  obtain ⟨chain, h⟩ := h
  have hlength : ∀ {scope chain}, index.Outward scope chain →
      index.lasts (fun _ => true) chain.length scope = false := by
    intro scope chain h
    induction h with
    | module => rfl
    | inside _ ih => simpa [lasts] using ih
  cases h with
  | module => rfl
  | inside h => simpa [lasts] using lasts_names (hlength h)

end SymbolIndex

/-! ## Computations that may not end -/

/-- The computation gives the value if it ends at all, and it does end under a condition. -/
structure Settles {α : Type} (ends : Prop) (run : Option α) (value : α) : Prop where
  sound : ∀ result, run = some result → result = value
  ended : ends → run = some value

namespace Settles

variable {α β : Type} {ends : Prop}

theorem pure (value : α) : Settles ends (some value) value :=
  ⟨fun _ h => (Option.some.inj h).symm, fun _ => rfl⟩

theorem bind {run : Option α} {value : α} {next : α → Option β} {value' : β}
    (h : Settles ends run value) (hnext : Settles ends (next value) value') :
    Settles ends (run.bind next) value' := by
  constructor
  · intro result hresult
    obtain ⟨a, ha, hrest⟩ := Option.bind_eq_some_iff.mp hresult
    rw [h.sound a ha] at hrest
    exact hnext.sound result hrest
  · intro hends
    rw [h.ended hends]
    exact hnext.ended hends

theorem map {run : Option α} {value : α} (h : Settles ends run value) (f : α → β) :
    Settles ends (run.map f) (f value) := by
  rw [Option.map_eq_bind]
  exact h.bind (pure (f value))

theorem mono {ends' : Prop} {run : Option α} {value : α} (h : Settles ends run value)
    (himp : ends' → ends) : Settles ends' run value :=
  ⟨h.sound, fun hends => h.ended (himp hends)⟩

end Settles

/-! ## Loops -/

/-- The loop goes on. -/
def Turn.isNext {σ ρ : Type} : Turn σ ρ → Bool
  | .answer _ => false
  | .next _ => true

namespace ScopeLoop

variable {σ ρ : Type} {loop : ScopeLoop σ ρ} {index : SymbolIndex}

/-- After the first turn it depends on the scope alone whether the loop passes by it. -/
def Steady (loop : ScopeLoop σ ρ) (passes : Symbol → Bool) : Prop :=
  ∀ gathered s gathered', loop.turn gathered s = .next gathered' →
    ∀ t, (loop.turn gathered' t).isNext = passes t

theorem run_mono {turns turns' : Nat} (hle : turns ≤ turns') {gathered : σ} {scope : Option Symbol}
    {result : ρ} (h : loop.run index turns gathered scope = some result) :
    loop.run index turns' gathered scope = some result := by
  induction turns generalizing turns' gathered scope with
  | zero =>
      cases scope with
      | none => rwa [run_none] at h ⊢
      | some s => cases h
  | succ turns ih =>
      obtain ⟨turns', rfl⟩ := Nat.exists_eq_succ_of_ne_zero (Nat.ne_zero_of_lt hle)
      cases scope with
      | none => exact h
      | some s =>
          rw [run] at h ⊢
          cases hturn : loop.turn gathered s with
          | answer result' =>
              rw [hturn] at h
              exact h
          | next gathered' =>
              rw [hturn] at h
              exact ih (Nat.le_of_succ_le_succ hle) h

/-- A loop that has ended has looked at the chain of as many scopes as it has made turns. -/
theorem along_chainFrom {turns : Nat} {gathered : σ} {scope : Option Symbol} {result : ρ}
    (h : loop.run index turns gathered scope = some result) :
    loop.along gathered (index.chainFrom turns scope) = result := by
  induction turns generalizing gathered scope with
  | zero =>
      cases scope with
      | none =>
          rw [run_none] at h
          exact Option.some.inj h
      | some s => cases h
  | succ turns ih =>
      cases scope with
      | none =>
          rw [run_none] at h
          exact Option.some.inj h
      | some s =>
          rw [run] at h
          rw [SymbolIndex.chainFrom, along]
          cases hturn : loop.turn gathered s with
          | answer result' =>
              rw [hturn] at h
              exact Option.some.inj h
          | next gathered' =>
              rw [hturn] at h
              exact ih h

theorem lasts_of_run_eq_none {turns : Nat} {gathered : σ} {scope : Option Symbol}
    (h : loop.run index turns gathered scope = none) :
    index.lasts (fun _ => true) turns scope = true := by
  induction turns generalizing gathered scope with
  | zero =>
      cases scope with
      | none => cases h
      | some s => rfl
  | succ turns ih =>
      cases scope with
      | none => cases h
      | some s =>
          rw [run] at h
          cases hturn : loop.turn gathered s with
          | answer result =>
              rw [hturn] at h
              cases h
          | next gathered' =>
              rw [hturn] at h
              exact SymbolIndex.lasts_succ_some.mpr ⟨rfl, ih h⟩

/-- After the first turn a steady loop is running as long as it passes by what it meets. -/
theorem Steady.run_eq_none_iff {passes : Symbol → Bool} (hsteady : loop.Steady passes)
    {gathered gathered' : σ} {s : Symbol} (hnext : loop.turn gathered s = .next gathered')
    (turns : Nat) (scope : Option Symbol) :
    loop.run index turns gathered' scope = none ↔ index.lasts passes turns scope = true := by
  induction turns generalizing gathered gathered' s scope with
  | zero => cases scope <;> simp [run, SymbolIndex.lasts]
  | succ turns ih =>
      cases scope with
      | none => simp [run]
      | some t =>
          have hpasses := hsteady gathered s gathered' hnext t
          rw [run, SymbolIndex.lasts_succ_some, ← hpasses]
          cases hturn : loop.turn gathered' t with
          | answer result => simp [Turn.isNext]
          | next gathered'' => simpa [Turn.isNext] using ih hturn (index.get? t.parent)

/-- The turns that are needed if any number of turns is enough. -/
theorem Steady.run_names {passes : Symbol → Bool} (hsteady : loop.Steady passes) {turns : Nat}
    {gathered : σ} {scope : Option Symbol} {result : ρ}
    (h : loop.run index turns gathered scope = some result) :
    loop.run index (index.byName.entries.length + 1) gathered scope = some result := by
  cases scope with
  | none => rwa [run_none] at h ⊢
  | some s =>
      cases turns with
      | zero => cases h
      | succ turns =>
          rw [run] at h ⊢
          cases hturn : loop.turn gathered s with
          | answer result' =>
              rw [hturn] at h
              exact h
          | next gathered' =>
              rw [hturn] at h
              dsimp only at h ⊢
              -- it ends, hence within the names; the answer is that of the longer of the two runs
              have hends : index.lasts passes turns (index.get? s.parent) = false := by
                rw [Bool.eq_false_iff]
                intro hlasts
                rw [(hsteady.run_eq_none_iff hturn turns _).mpr hlasts] at h
                cases h
              have hwithin := Bool.eq_false_iff.mp (SymbolIndex.lasts_names hends)
              rw [ne_eq, ← hsteady.run_eq_none_iff hturn] at hwithin
              obtain ⟨result', hresult'⟩ := Option.ne_none_iff_exists'.mp hwithin
              rw [hresult', ← run_mono (Nat.le_max_left _ turns) hresult',
                run_mono (Nat.le_max_right _ turns) h]

/-- A steady loop that ends gives the answer that is read off the chain of the scope. It ends where the way
outward does. -/
theorem Steady.settles {passes : Symbol → Bool} (hsteady : loop.Steady passes) (turns : Nat)
    (gathered : σ) (scope : Option Symbol) :
    Settles (index.Ends scope ∧ index.byName.entries.length < turns)
      (loop.run index turns gathered scope) (loop.along gathered (index.scopeChain scope)) := by
  have hsound : ∀ turns result, loop.run index turns gathered scope = some result →
      result = loop.along gathered (index.scopeChain scope) := fun turns result h =>
    (along_chainFrom (hsteady.run_names h)).symm
  refine ⟨hsound turns, fun hends => ?_⟩
  obtain ⟨hends, hturns⟩ := hends
  have hsome : loop.run index (index.byName.entries.length + 1) gathered scope ≠ none := by
    intro hnone
    have hfalse := hends.lasts_eq_false
    rw [lasts_of_run_eq_none hnone] at hfalse
    cases hfalse
  obtain ⟨result, hresult⟩ := Option.ne_none_iff_exists'.mp hsome
  rw [run_mono hturns hresult, hsound _ result hresult]

/-- A loop that passes by a scope that is its own parent never ends. -/
theorem run_of_own_parent {s : Symbol} (hparent : index.get? s.parent = some s)
    (hnext : ∀ gathered, ∃ gathered', loop.turn gathered s = .next gathered') (turns : Nat)
    (gathered : σ) : loop.run index turns gathered (some s) = none := by
  induction turns generalizing gathered with
  | zero => rfl
  | succ turns ih =>
      obtain ⟨gathered', hturn⟩ := hnext gathered
      rw [run, hturn, hparent]
      exact ih gathered'

theorem isNext_ofFound (gathered : σ) (found : Option ρ) :
    (Turn.ofFound gathered found).isNext = found.isNone := by
  cases found <;> rfl

theorem steady_enclosing (receiver : Option String) :
    (enclosing receiver).Steady fun s => decide (s.kind = .function) := by
  intro gathered s gathered' _ t
  simp only [enclosing]
  cases t.kind <;> rfl

theorem steady_sameFile (ctx : CallContext) (name : String) :
    (sameFile ctx name).Steady fun s =>
      (if decide (s.kind ≠ .cls) then ctx.visibleIn? name s else none).isNone := by
  intro gathered s gathered' hnext t
  -- whatever the first scope is, it is not the first one any more
  have hfalse : gathered' = false := by
    simp only [sameFile] at hnext
    revert hnext
    generalize (if (decide (s.kind ≠ .cls) || gathered) = true then ctx.visibleIn? name s else none) = found
    intro hnext
    cases found <;> cases hnext
    rfl
  simp only [sameFile, hfalse, isNext_ofFound, Bool.or_false]

theorem steady_imported (ctx : CallContext) (name : String) :
    (imported ctx name).Steady fun s =>
      ((ctx.localImports.get? s.qualifiedName).bind (·.get? name)).isNone := by
  intro gathered s gathered' _ t
  simp only [imported, isNext_ofFound]

end ScopeLoop

end SourceFacts
