import SourceFacts.Project.Run
import SourceFacts.Proofs.Report.Merge

/-!
# Pools of workers

A run over many files as a pool of workers takes it. The jobs are handed in one after the other, the
workers take them in any order, and a collector gathers what they leave: it counts a job, then it notes
what the job brought. At any moment the run may be cancelled and a worker may be interrupted. So may the
collector while it hands in jobs, where a job whose submission is cut short is one that was not handed in,
and while it gathers them, where a job that it has counted and not noted is lost. An interruption that
comes when it throws out what is queued, or later, leaves no report and is no step here. Whatever the order
of the steps, each job is counted once.
-/

namespace SourceFacts

/-! ## Tickets -/

/-- A file to be analysed, with the name under which it is shown. -/
abbrev Job := String × Path

/-- What an attempt brings, unless it was interrupted. -/
def Attempt.outcome? (shown : String) : Attempt → Option FileOutcome
  | .finished o => some o
  | .failed message => some (.failure { file := shown, message := s!"analysis failed: {message}" })
  | .interrupted => none

/-- Where a job is that was handed in. -/
inductive Place where
  | queued
  /-- A worker is about to see whether the run is cancelled. -/
  | taken
  | running
  | ended (a : Attempt)
  /-- The worker saw that the run is cancelled. -/
  | declined
  /-- The job was thrown out of the queue. -/
  | dropped

namespace Place

/-- A worker has the job. -/
def isBusy : Place → Bool
  | .taken | .running => true
  | _ => false

/-- Nothing more happens to the job. -/
def isSettled : Place → Bool
  | .ended _ | .declined | .dropped => true
  | _ => false

/-- The job will bring no outcome. -/
def isLost : Place → Bool
  | .ended .interrupted | .declined | .dropped => true
  | _ => false

end Place

/-- A job that was handed in. -/
structure Ticket where
  job : Job
  place : Place := .queued
  /-- The collector has seen that the job has ended. -/
  counted : Bool := false
  /-- The collector has noted what the job brought. -/
  noted : Bool := false

namespace Ticket

/-- The collector has the job in hand: it is counted, and nothing is noted about it. -/
def isHeld (t : Ticket) : Bool :=
  t.counted && !t.noted

/-- The outcome of the job. -/
def outcome? (t : Ticket) : Option FileOutcome :=
  match t.place with
  | .ended a => a.outcome? t.job.1
  | _ => none

/-- The name of a job that brings no outcome. -/
def skipped? (t : Ticket) : Option String :=
  if t.place.isLost then some t.job.1 else none

end Ticket

/-! ## Steps -/

/-- What the collector does. -/
inductive Phase where
  /-- It hands in the jobs. -/
  | submitting
  /-- It gathers what has ended. -/
  | collecting
  /-- It throws out what is queued and waits for the workers. -/
  | stopping
  /-- It gathers what is left. -/
  | sweeping
  | done
deriving DecidableEq

/-- No more jobs are begun. -/
def Phase.isClosing : Phase → Bool
  | .submitting | .collecting => false
  | _ => true

/-- The state of a run. -/
structure Pool where
  /-- The jobs that are not handed in yet. -/
  ahead : List Job
  tickets : List Ticket := []
  outcomes : List FileOutcome := []
  skipped : List String := []
  cancelled : Bool
  phase : Phase := .submitting

namespace Pool

/-- The report at the end. -/
def report (s : Pool) : Report :=
  Report.ofFiles s.outcomes s.skipped s.cancelled

/-- The tickets that the collector has in hand. -/
def held (s : Pool) : List Ticket :=
  s.tickets.filter Ticket.isHeld

/-- Counts a ticket. -/
def count (s : Pool) (before : List Ticket) (t : Ticket) (after : List Ticket) : Pool :=
  { s with tickets := before ++ { t with counted := true } :: after }

/-- Notes what the job of a ticket brought. -/
def note (s : Pool) (before : List Ticket) (t : Ticket) (after : List Ticket) : Pool :=
  { s with
    tickets := before ++ { t with counted := true, noted := true } :: after
    outcomes := s.outcomes ++ t.outcome?.toList
    skipped := s.skipped ++ t.skipped?.toList }

/-- An interruption stops the collector. -/
def stop (s : Pool) : Pool :=
  { s with cancelled := true, phase := .stopping }

end Pool

/-- What comes from outside: that the run is cancelled, or that something is interrupted. -/
inductive Happening where
  | none
  | cancel
  | interrupt
  /-- The collector is interrupted with a job in hand. -/
  | loss
deriving DecidableEq

section Steps

variable (attempt : String → Path → Attempt) (workers : Nat)

/-- How a job gets from one place to another. -/
inductive Moves (s : Pool) (job : Job) : Happening → Place → Place → Prop where
  | take (h : s.tickets.countP (·.place.isBusy) < workers) : Moves s job .none .queued .taken
  | begin (h : s.cancelled = false) : Moves s job .none .taken .running
  | decline (h : s.cancelled = true) : Moves s job .none .taken .declined
  | finish (h : attempt job.1 job.2 ≠ .interrupted) :
      Moves s job .none .running (.ended (attempt job.1 job.2))
  | breakOff : Moves s job .interrupt .running (.ended .interrupted)
  | drop (h : s.phase = .stopping) : Moves s job .none .queued .dropped

/-- One step of a run. -/
inductive Step : Pool → Happening → Pool → Prop where
  | submit {s : Pool} {job : Job} {rest : List Job} (hphase : s.phase = .submitting)
      (hahead : s.ahead = job :: rest) :
      Step s .none { s with ahead := rest, tickets := s.tickets ++ [{ job }] }
  | await {s : Pool} (hphase : s.phase = .submitting) (hahead : s.ahead = []) :
      Step s .none { s with phase := .collecting }
  | move {s : Pool} {happening : Happening} {before after : List Ticket} {t : Ticket}
      {place : Place} (htickets : s.tickets = before ++ t :: after)
      (hmoves : Moves attempt workers s t.job happening t.place place) :
      Step s happening { s with tickets := before ++ { t with place } :: after }
  | cancel {s : Pool} (hphase : s.phase ≠ .done) (hcancelled : s.cancelled = false) :
      Step s .cancel { s with cancelled := true }
  | interrupt {s : Pool} (hphase : s.phase = .submitting ∨ s.phase = .collecting)
      (hfree : s.held = []) : Step s .interrupt s.stop
  | lose {s : Pool} (hphase : s.phase = .collecting) (hheld : s.held ≠ []) : Step s .loss s.stop
  | count {s : Pool} {before after : List Ticket} {t : Ticket} (hphase : s.phase = .collecting)
      (hfree : s.held = []) (htickets : s.tickets = before ++ t :: after)
      (hcounted : t.counted = false) (hsettled : t.place.isSettled = true)
      (hplace : t.place ≠ .ended .interrupted) :
      Step s .none (s.count before t after)
  | note {s : Pool} {before after : List Ticket} {t : Ticket} (hphase : s.phase = .collecting)
      (htickets : s.tickets = before ++ t :: after) (hheld : t.isHeld = true) :
      Step s .none (s.note before t after)
  | reraise {s : Pool} {t : Ticket} (hphase : s.phase = .collecting) (hfree : s.held = [])
      (ht : t ∈ s.tickets) (hcounted : t.counted = false) (hplace : t.place = .ended .interrupted) :
      Step s .none s.stop
  | exhausted {s : Pool} (hphase : s.phase = .collecting) (hfree : s.held = [])
      (hcounted : ∀ t ∈ s.tickets, t.counted = true) :
      Step s .none { s with phase := .stopping }
  | stopped {s : Pool} (hphase : s.phase = .stopping)
      (hsettled : ∀ t ∈ s.tickets, t.place.isSettled = true) :
      Step s .none { s with phase := .sweeping }
  | sweep {s : Pool} {before after : List Ticket} {t : Ticket} (hphase : s.phase = .sweeping)
      (htickets : s.tickets = before ++ t :: after) (hcounted : t.counted = false)
      (hsettled : t.place.isSettled = true) :
      Step s .none (s.note before t after)
  | leave {s : Pool} (hphase : s.phase = .sweeping)
      (hcounted : ∀ t ∈ s.tickets, t.counted = true) :
      Step s .none { s with skipped := s.skipped ++ s.ahead.map (·.1), phase := .done }

/-- Steps one after the other, with what came from outside. -/
inductive Schedule : Pool → List Happening → Pool → Prop where
  | nil (s : Pool) : Schedule s [] s
  | cons {s t u : Pool} {h : Happening} {hs : List Happening} (hstep : Step attempt workers s h t)
      (hrest : Schedule t hs u) : Schedule s (h :: hs) u

end Steps

section Invariant

variable {attempt : String → Path → Attempt} {workers : Nat} {s s' : Pool}

theorem Moves.not_settled {job : Job} {h : Happening} {a b : Place}
    (hmoves : Moves attempt workers s job h a b) : a.isSettled = false := by
  cases hmoves <;> rfl

theorem mem_of_mem_replaced {l before after : List Ticket} {t t' u : Ticket}
    (hl : l = before ++ t :: after) (hu : u ∈ before ++ t' :: after) : u = t' ∨ u ∈ l := by
  simp only [hl, List.mem_append, List.mem_cons] at hu ⊢
  tauto

/-- What holds of a ticket at any time. -/
structure Ticket.Valid (attempt : String → Path → Attempt) (s : Pool) (t : Ticket) : Prop where
  settled : t.counted = true → t.place.isSettled = true
  noted : t.noted = true → t.counted = true
  origin : ∀ a, t.place = .ended a → a = attempt t.job.1 t.job.2 ∨ a = .interrupted
  dropped : t.place = .dropped → s.phase.isClosing = true
  swept : s.phase = .sweeping ∨ s.phase = .done → t.place.isSettled = true
  done : s.phase = .done → t.counted = true
  lost : s.cancelled = false → t.place.isLost = true →
    t.place = .ended .interrupted ∧ t.counted = false

/-- Where a job has moved to; only a cancelled run throws jobs out of the queue. -/
theorem Moves.valid {job : Job} {h : Happening} {a b : Place}
    (hmoves : Moves attempt workers s job h a b)
    (hopen : s.phase ≠ .sweeping ∧ s.phase ≠ .done)
    (hclosing : s.phase.isClosing = true → s.cancelled = true) :
    Ticket.Valid attempt s { job, place := b } := by
  constructor
  case settled => rintro ⟨⟩
  case noted => rintro ⟨⟩
  case origin =>
    intro c hc
    cases hmoves with
    | finish => exact .inl (Place.ended.inj hc).symm
    | breakOff => exact .inr (Place.ended.inj hc).symm
    | _ => cases hc
  case dropped =>
    intro hdropped
    cases hmoves with
    | drop hphase => simp [hphase, Phase.isClosing]
    | _ => cases hdropped
  case swept => simp [hopen]
  case done => simp [hopen]
  case lost =>
    intro hcancelled hlost
    cases hmoves with
    | take | begin => cases hlost
    | decline hdecline => rw [hcancelled] at hdecline; cases hdecline
    | finish hfinish =>
        exfalso
        cases ha : attempt job.1 job.2 with
        | interrupted => exact hfinish ha
        | _ => simp [ha, Place.isLost] at hlost
    | breakOff => exact ⟨rfl, rfl⟩
    | drop hphase =>
        rw [hclosing (by rw [hphase]; rfl)] at hcancelled
        cases hcancelled

namespace Pool

/-- The tickets about which something is noted. -/
def noted (s : Pool) : List Ticket :=
  s.tickets.filter (·.noted)

/-- The names of the jobs that were not handed in, once the collector has come to them. -/
def leftOut (s : Pool) : List String :=
  if s.phase = .done then s.ahead.map (·.1) else []

/-- What holds at any time of a run. -/
structure Valid (attempt : String → Path → Attempt) (jobs : List Job) (s : Pool) : Prop where
  table : s.tickets.map (·.job) ++ s.ahead = jobs
  outcomes : s.outcomes.Perm (s.noted.filterMap Ticket.outcome?)
  skipped : s.skipped.Perm (s.noted.filterMap Ticket.skipped? ++ s.leftOut)
  tickets : ∀ t ∈ s.tickets, t.Valid attempt s
  held : s.held.length ≤ 1
  ahead : s.phase = .collecting → s.ahead = []
  closed : s.phase.isClosing = true → s.cancelled = false →
    s.ahead = [] ∧ ∀ t ∈ s.tickets, t.noted = true

variable {jobs : List Job} {before after : List Ticket} {t : Ticket}

theorem Valid.submit {job : Job} {rest : List Job} (hv : s.Valid attempt jobs)
    (hphase : s.phase = .submitting) (hahead : s.ahead = job :: rest) :
    Valid attempt jobs { s with ahead := rest, tickets := s.tickets ++ [{ job }] } where
  table := by
    rw [← hv.table, hahead]
    simp
  outcomes := by simpa [noted] using hv.outcomes
  skipped := by simpa [noted, leftOut, hphase] using hv.skipped
  tickets := by
    intro t ht
    rcases List.mem_append.mp ht with ht | ht
    · exact { hv.tickets t ht with }
    · rw [List.mem_singleton.mp ht]
      constructor <;> simp [hphase, Place.isLost]
  held := by simpa [Pool.held, Ticket.isHeld] using hv.held
  ahead := by simp [hphase]
  closed := by simp [hphase, Phase.isClosing]

theorem Valid.await (hv : s.Valid attempt jobs) (hphase : s.phase = .submitting)
    (hahead : s.ahead = []) : Valid attempt jobs { s with phase := .collecting } where
  table := hv.table
  outcomes := hv.outcomes
  skipped := by simpa [noted, leftOut, hphase] using hv.skipped
  tickets := by
    intro t ht
    have htv := hv.tickets t ht
    refine { htv with dropped := ?_, swept := ?_, done := ?_ }
    · exact fun hdropped => by simpa [hphase, Phase.isClosing] using htv.dropped hdropped
    · simp
    · simp
  held := hv.held
  ahead := fun _ => hahead
  closed := by simp [Phase.isClosing]

theorem noted_replaced (htickets : s.tickets = before ++ t :: after) {t' : Ticket}
    (hnoted : t.noted = false) (hnoted' : t'.noted = false) :
    noted { s with tickets := before ++ t' :: after } = s.noted := by
  simp [noted, htickets, hnoted, hnoted']

theorem held_replaced (htickets : s.tickets = before ++ t :: after) {t' : Ticket}
    (hheld : t.isHeld = false) (hheld' : t'.isHeld = false) :
    held { s with tickets := before ++ t' :: after } = s.held := by
  simp [held, htickets, hheld, hheld']

theorem Valid.noted_eq_false (hv : s.Valid attempt jobs) (ht : t ∈ s.tickets)
    (hcounted : t.counted = false) : t.noted = false := by
  cases hnoted : t.noted with
  | false => rfl
  | true =>
      rw [(hv.tickets t ht).noted hnoted] at hcounted
      cases hcounted

/-- A run that closes without being cancelled has counted all tickets. -/
theorem Valid.cancelled_of_closing (hv : s.Valid attempt jobs) (ht : t ∈ s.tickets)
    (hnoted : t.noted = false) (hclosing : s.phase.isClosing = true) : s.cancelled = true := by
  by_contra hcancelled
  have hall := (hv.closed hclosing (by simpa using hcancelled)).2 t ht
  rw [hnoted] at hall
  cases hall

/-- While the run is not cancelled, a job that is lost was interrupted and is not counted. -/
theorem Valid.isLost_eq_false (hv : s.Valid attempt jobs) (ht : t ∈ s.tickets)
    (hnot : t.place ≠ .ended .interrupted ∨ t.counted = true) (hcancelled : s.cancelled = false) :
    t.place.isLost = false := by
  rw [← Bool.not_eq_true]
  intro hlost
  obtain ⟨hplace, hcounted⟩ := (hv.tickets t ht).lost hcancelled hlost
  rcases hnot with hnot | hnot
  · exact hnot hplace
  · rw [hcounted] at hnot
    cases hnot

/-- Only settled jobs are counted, and a settled job does not move. -/
theorem Valid.counted_of_moves {h : Happening} {place : Place} (hv : s.Valid attempt jobs)
    (ht : t ∈ s.tickets) (hmoves : Moves attempt workers s t.job h t.place place) :
    t.counted = false := by
  have hsettled := hmoves.not_settled
  cases hc : t.counted with
  | false => rfl
  | true => rw [(hv.tickets t ht).settled hc] at hsettled; cases hsettled

/-- A job that moves is not counted, so the collector does not see the move. -/
theorem Valid.move {h : Happening} {place : Place} (hv : s.Valid attempt jobs)
    (htickets : s.tickets = before ++ t :: after)
    (hmoves : Moves attempt workers s t.job h t.place place) :
    Valid attempt jobs { s with tickets := before ++ { t with place } :: after } := by
  have ht : t ∈ s.tickets := by simp [htickets]
  have htv := hv.tickets t ht
  have hcounted := hv.counted_of_moves ht hmoves
  have hnoted := hv.noted_eq_false ht hcounted
  have hsame : noted { s with tickets := before ++ { t with place } :: after } = s.noted :=
    noted_replaced htickets hnoted hnoted
  have hopen : s.phase ≠ .sweeping ∧ s.phase ≠ .done := by
    have hsettled := hmoves.not_settled
    constructor <;> intro hphase <;> simp [htv.swept, hphase] at hsettled
  have hclosing := hv.cancelled_of_closing ht hnoted
  constructor
  case table => rw [← hv.table, htickets]; simp
  case outcomes => rw [hsame]; exact hv.outcomes
  case skipped => rw [hsame]; exact hv.skipped
  case tickets =>
    intro u hu
    rcases mem_of_mem_replaced htickets hu with rfl | hu
    · rw [hcounted, hnoted]
      exact { hmoves.valid hopen hclosing with }
    · exact { hv.tickets u hu with }
  case held =>
    have hfree : t.isHeld = false := by simp [Ticket.isHeld, hcounted]
    have hheld : Pool.held { s with tickets := before ++ { t with place } :: after } = s.held :=
      held_replaced htickets hfree hfree
    rw [hheld]
    exact hv.held
  case ahead => exact hv.ahead
  case closed =>
    intro hphase hcancelled
    have hcancelled' : s.cancelled = false := hcancelled
    rw [hclosing hphase] at hcancelled'
    cases hcancelled'

/-- A settled job may be counted, unless it is lost while the run is not cancelled. -/
theorem Valid.ticket_counted (hv : s.Valid attempt jobs) (ht : t ∈ s.tickets)
    (hsettled : t.place.isSettled = true) (hlost : s.cancelled = false → t.place.isLost = false)
    (noted : Bool) : Ticket.Valid attempt s { t with counted := true, noted } :=
  { hv.tickets t ht with
    settled := fun _ => hsettled
    noted := fun _ => rfl
    done := fun _ => rfl
    lost := fun hcancelled hl => by simp [hlost hcancelled] at hl }

/-- A job that is counted is in hand. -/
theorem Valid.count (hv : s.Valid attempt jobs) (hfree : s.held = [])
    (htickets : s.tickets = before ++ t :: after) (hcounted : t.counted = false)
    (hsettled : t.place.isSettled = true) (hopen : s.phase.isClosing = false)
    (hlost : s.cancelled = false → t.place.isLost = false) :
    (s.count before t after).Valid attempt jobs := by
  have ht : t ∈ s.tickets := by simp [htickets]
  have hnoted := hv.noted_eq_false ht hcounted
  have hsame : (s.count before t after).noted = s.noted := noted_replaced htickets hnoted hnoted
  constructor
  case table => rw [← hv.table, htickets]; simp [Pool.count]
  case outcomes => rw [hsame]; exact hv.outcomes
  case skipped => rw [hsame]; exact hv.skipped
  case tickets =>
    intro u hu
    rcases mem_of_mem_replaced htickets hu with rfl | hu
    · exact { hv.ticket_counted ht hsettled hlost t.noted with }
    · exact { hv.tickets u hu with }
  case held =>
    simp only [Pool.held, htickets, List.filter_append, List.filter_cons, Ticket.isHeld, hcounted,
      Bool.false_and, Bool.false_eq_true, if_false, List.append_eq_nil_iff] at hfree
    simp [Pool.held, Pool.count, Ticket.isHeld, hnoted, hfree.1, hfree.2]
  case ahead => exact hv.ahead
  case closed =>
    intro hclosing
    rw [show (s.count before t after).phase = s.phase from rfl, hopen] at hclosing
    cases hclosing

theorem filterMap_insert_perm {α β : Type} (f : α → Option β) (l₁ l₂ : List α) (a : α) :
    ((l₁ ++ l₂).filterMap f ++ (f a).toList).Perm ((l₁ ++ a :: l₂).filterMap f) := by
  rw [List.filterMap_append, List.filterMap_append, List.append_assoc]
  refine List.Perm.append_left _ ?_
  cases ha : f a with
  | none => simp [ha]
  | some b => simp [ha, List.perm_append_singleton]

theorem Valid.note (hv : s.Valid attempt jobs) (htickets : s.tickets = before ++ t :: after)
    (hnoted : t.noted = false) (hsettled : t.place.isSettled = true) (hphase : s.phase ≠ .done)
    (hlost : s.cancelled = false → t.place.isLost = false) :
    (s.note before t after).Valid attempt jobs := by
  have ht : t ∈ s.tickets := by simp [htickets]
  have hold : s.noted = before.filter (·.noted) ++ after.filter (·.noted) := by
    simp [noted, htickets, hnoted]
  have hnew : (s.note before t after).noted =
      before.filter (·.noted) ++ { t with counted := true, noted := true } :: after.filter (·.noted) := by
    simp [noted, Pool.note]
  constructor
  case table => rw [← hv.table, htickets]; simp [Pool.note]
  case outcomes =>
    rw [hnew]
    refine (hv.outcomes.append_right _).trans ?_
    rw [hold]
    exact filterMap_insert_perm Ticket.outcome? _ _ { t with counted := true, noted := true }
  case skipped =>
    have hskipped := hv.skipped
    rw [leftOut, if_neg hphase, List.append_nil] at hskipped
    have hleft : (s.note before t after).leftOut = [] := if_neg hphase
    rw [hnew, hleft, List.append_nil]
    refine (hskipped.append_right _).trans ?_
    rw [hold]
    exact filterMap_insert_perm Ticket.skipped? _ _ { t with counted := true, noted := true }
  case tickets =>
    intro u hu
    rcases mem_of_mem_replaced htickets hu with rfl | hu
    · exact { hv.ticket_counted ht hsettled hlost true with }
    · exact { hv.tickets u hu with }
  case held =>
    have hless : (s.note before t after).held =
        before.filter Ticket.isHeld ++ after.filter Ticket.isHeld := by
      simp [Pool.held, Pool.note, Ticket.isHeld]
    have hmore : ((before.filter Ticket.isHeld ++ after.filter Ticket.isHeld).Sublist s.held) := by
      rw [Pool.held, htickets, List.filter_append]
      exact (List.Sublist.refl _).append ((List.sublist_cons_self t after).filter _)
    rw [hless]
    exact hmore.length_le.trans hv.held
  case ahead => exact hv.ahead
  case closed =>
    intro hclosing hcancelled
    have hcancelled' : s.cancelled = false := hcancelled
    rw [hv.cancelled_of_closing ht hnoted hclosing] at hcancelled'
    cases hcancelled'

theorem Valid.cancel (hv : s.Valid attempt jobs) :
    Valid attempt jobs { s with cancelled := true } where
  table := hv.table
  outcomes := hv.outcomes
  skipped := hv.skipped
  tickets := fun t ht => { hv.tickets t ht with lost := by rintro ⟨⟩ }
  held := hv.held
  ahead := hv.ahead
  closed := by rintro _ ⟨⟩

/-- The collector goes on to a later phase. -/
theorem Valid.goOn (hv : s.Valid attempt jobs) (phase : Phase) (hclosing : phase.isClosing = true)
    (hphase : s.phase ≠ .done)
    (hsettled : phase = .sweeping ∨ phase = .done → ∀ t ∈ s.tickets, t.place.isSettled = true)
    (hcounted : phase = .done → ∀ t ∈ s.tickets, t.counted = true)
    (hclosed : s.cancelled = false → s.ahead = [] ∧ ∀ t ∈ s.tickets, t.noted = true) :
    Valid attempt jobs
      { s with skipped := s.skipped ++ leftOut { s with phase }, phase } where
  table := hv.table
  outcomes := hv.outcomes
  skipped := by
    have hskipped := hv.skipped
    rw [leftOut, if_neg hphase, List.append_nil] at hskipped
    exact hskipped.append_right _
  tickets := fun t ht =>
    { hv.tickets t ht with
      dropped := fun _ => hclosing
      swept := fun h => hsettled h t ht
      done := fun h => hcounted h t ht }
  held := hv.held
  ahead := by
    rintro rfl
    cases hclosing
  closed := fun _ => hclosed

theorem Valid.stop (hv : s.Valid attempt jobs) (hphase : s.phase ≠ .done) :
    s.stop.Valid attempt jobs := by
  have hgone := hv.cancel.goOn .stopping rfl hphase (by simp) (by simp) (by simp)
  simpa [leftOut, Pool.stop] using hgone

/-- A ticket that is counted is in hand, or something is noted about it. -/
theorem noted_of_free (hfree : s.held = []) (ht : t ∈ s.tickets) (hcounted : t.counted = true) :
    t.noted = true := by
  have hnot := List.filter_eq_nil_iff.mp hfree t ht
  simpa [Ticket.isHeld, hcounted] using hnot

end Pool

theorem Step.valid {jobs : List Job} {h : Happening} (hstep : Step attempt workers s h s')
    (hv : s.Valid attempt jobs) : s'.Valid attempt jobs := by
  cases hstep with
  | submit hphase hahead => exact hv.submit hphase hahead
  | await hphase hahead => exact hv.await hphase hahead
  | move htickets hmoves => exact hv.move htickets hmoves
  | cancel => exact hv.cancel
  | interrupt hphase => exact hv.stop (by rcases hphase with h | h <;> simp [h])
  | lose hphase | reraise hphase => exact hv.stop (by simp [hphase])
  | @count before after t hphase hfree htickets hcounted hsettled hplace =>
      exact hv.count hfree htickets hcounted hsettled (by rw [hphase]; rfl)
        (hv.isLost_eq_false (by simp [htickets]) (.inl hplace))
  | @note before after t hphase htickets hheld =>
      have ht : t ∈ s.tickets := by simp [htickets]
      simp only [Ticket.isHeld, Bool.and_eq_true, Bool.not_eq_true'] at hheld
      exact hv.note htickets hheld.2 ((hv.tickets t ht).settled hheld.1) (by simp [hphase])
        (hv.isLost_eq_false ht (.inr hheld.1))
  | exhausted hphase hfree hcounted =>
      have hgone := hv.goOn .stopping rfl (by simp [hphase]) (by simp) (by simp) fun _ =>
        ⟨hv.ahead hphase, fun t ht => Pool.noted_of_free hfree ht (hcounted t ht)⟩
      simpa [Pool.leftOut] using hgone
  | stopped hphase hsettled =>
      have hgone := hv.goOn .sweeping rfl (by simp [hphase]) (fun _ => hsettled) (by simp)
        (hv.closed (by rw [hphase]; rfl))
      simpa [Pool.leftOut] using hgone
  | @sweep before after t hphase htickets hcounted hsettled =>
      have ht : t ∈ s.tickets := by simp [htickets]
      have hnoted := hv.noted_eq_false ht hcounted
      refine hv.note htickets hnoted hsettled (by simp [hphase]) fun hcancelled => ?_
      -- Without a cancellation nothing is left to be swept up.
      rw [hv.cancelled_of_closing ht hnoted (by rw [hphase]; rfl)] at hcancelled
      cases hcancelled
  | leave hphase hcounted =>
      exact hv.goOn .done rfl (by simp [hphase])
        (fun _ t ht => (hv.tickets t ht).swept (.inl hphase)) (fun _ => hcounted)
        (hv.closed (by rw [hphase]; rfl))

theorem Schedule.valid {jobs : List Job} {hs : List Happening}
    (hrun : Schedule attempt workers s hs s') (hv : s.Valid attempt jobs) :
    s'.Valid attempt jobs := by
  induction hrun with
  | nil => exact hv
  | cons hstep _ ih => exact ih (hstep.valid hv)

/-! ## What is lost -/

/-- How often a job can still move. -/
def Place.work : Place → Nat
  | .queued => 3
  | .taken => 2
  | .running => 1
  | _ => 0

/-- How much there is still to do about a ticket. -/
def Ticket.work (t : Ticket) : Nat :=
  t.place.work + (!t.counted).toNat + (!t.noted).toNat

/-- How much there is still to do about some tickets. -/
def Ticket.workOf : List Ticket → Nat
  | [] => 0
  | t :: ts => t.work + workOf ts

@[simp]
theorem Ticket.workOf_append (ts us : List Ticket) : workOf (ts ++ us) = workOf ts + workOf us := by
  induction ts with
  | nil => simp [workOf]
  | cons t ts ih => simp only [List.cons_append, workOf, ih, Nat.add_assoc]

/-- How many phases are still to come. -/
def Phase.work : Phase → Nat
  | .submitting => 4
  | .collecting => 3
  | .stopping => 2
  | .sweeping => 1
  | .done => 0

/-- How much there is still to do. -/
def Pool.work (s : Pool) : Nat :=
  6 * s.ahead.length + Ticket.workOf s.tickets + s.phase.work + (!s.cancelled).toNat

theorem Moves.work_lt {job : Job} {h : Happening} {a b : Place}
    (hmoves : Moves attempt workers s job h a b) : b.work < a.work := by
  cases hmoves <;> simp [Place.work]

theorem Step.work_lt {h : Happening} (hstep : Step attempt workers s h s') : s'.work < s.work := by
  cases hstep with
  | submit hphase hahead =>
      simp [Pool.work, Ticket.workOf, Ticket.work, Place.work, hahead]
      omega
  | move htickets hmoves =>
      have hlt := hmoves.work_lt
      simp [Pool.work, Ticket.workOf, Ticket.work, htickets]
      omega
  | count _ _ htickets hcounted =>
      simp [Pool.work, Pool.count, Ticket.workOf, Ticket.work, htickets, hcounted]
  | note _ htickets hheld =>
      simp only [Ticket.isHeld, Bool.and_eq_true, Bool.not_eq_true'] at hheld
      simp [Pool.work, Pool.note, Ticket.workOf, Ticket.work, htickets, hheld.1, hheld.2]
  | sweep _ htickets hcounted =>
      simp [Pool.work, Pool.note, Ticket.workOf, Ticket.work, htickets, hcounted]
      omega
  | cancel _ hcancelled => simp [Pool.work, hcancelled]
  | await hphase | exhausted hphase | stopped hphase | leave hphase =>
      simp [Pool.work, Phase.work, hphase]
  | interrupt hphase =>
      rcases hphase with hphase | hphase <;>
        simp [Pool.work, Pool.stop, Phase.work, hphase] <;> omega
  | lose hphase | reraise hphase =>
      simp [Pool.work, Pool.stop, Phase.work, hphase]
      omega

/-- A run has no more steps than there was to do. -/
theorem Schedule.length_le {hs : List Happening} (hrun : Schedule attempt workers s hs s') :
    hs.length + s'.work ≤ s.work := by
  induction hrun with
  | nil => simp
  | cons hstep _ ih =>
      have hlt := hstep.work_lt
      rw [List.length_cons]
      omega

end Invariant

end SourceFacts
