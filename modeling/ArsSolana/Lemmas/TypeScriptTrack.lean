import ArsSolana.Track
import ArsSolana.TypeScript.State

/-!
# `state.ts` refines the track

`applyEvent` takes the steps of `track` on what the track sees of its events and jobs, and refuses for the same reason.
-/

namespace ArsSolana.TypeScript

open EventSourcing EventSourcing.Machine

def ArsEvent.move : ArsEvent → Move
  | jobOpened e => .opened e.agent e.requestor e.exposureAtomic
  | underwritingStarted _ => .started
  | underwritingDecided e => .decided e.passed
  | principalReleased e => .released e.amountAtomic
  | evidenceSubmitted _ => .evidence
  | disputed _ => .disputed
  | closed _ => .closed

/-- What the track sees of an event. -/
def ArsEvent.entry (e : ArsEvent) : Entry := ⟨e.jobId, e.atTime, e.move⟩

def ArsEvent.letter (e : ArsEvent) : Letter := e.move.letter

/-- What the track sees of a job: everything. -/
def Job.account (j : Job) : Account :=
  ⟨j.jobId, j.agent, j.requestor, j.exposureAtomic, j.state, j.releasedAtomic, j.lastEventAt⟩

/-- A job is known by its account. -/
theorem Job.account_injective : Function.Injective Job.account := by
  intro a b h
  cases a
  cases b
  simpa [Job.account] using h

@[simp] theorem ArsEvent.letter_entry (e : ArsEvent) : e.entry.letter = e.letter := rfl

/-! ## One event -/

/-- The transition function as an event-sourced machine. -/
def machine : Machine Job ArsEvent ARSTransitionError where
  step := applyEvent
  empty := ⟨.emptyLog, "cannot replay an empty event log"⟩

theorem machine_step (job : Option Job) (e : ArsEvent) : machine.step job e = applyEvent job e := rfl

/-- The job after an event the track accepts. -/
def Job.after (job : Job) (e : ArsEvent) : Job :=
  { job with
    state := e.letter.state
    releasedAtomic := job.releasedAtomic + e.move.amount
    lastEventAt := e.atTime }

/-- An event that releases nothing moves the job, and leaves the released principal. -/
theorem Job.account_moveTo (job : Job) {e : ArsEvent} (h : e.move.amount = 0) :
    (job.moveTo e e.letter.state).account = job.account.after e.entry := by
  simp only [Job.account, Job.moveTo, Account.after, Entry.amount, ArsEvent.entry, h, Int.add_zero]
  rfl

/-- `currentJob` makes the checks of the track, in its order. -/
theorem currentJob_checks (job : Job) (e : ArsEvent) :
    ChecksJob Job.account ARSTransitionError.reason job e.entry (currentJob (some job) e) where
  mismatch h := ⟨_, if_pos h, rfl⟩
  terminal hid h := ⟨_, (if_neg (not_not_intro hid)).trans (if_pos (decide_eq_true h)), rfl⟩
  handed hid h := (if_neg (not_not_intro hid)).trans (if_neg (by simpa [isTerminal, TERMINAL, Job.account] using h))

/-- `applyEvent` takes the steps of the track. -/
theorem applyEvent_refines (job : Option Job) (e : ArsEvent) :
    Outcome.Agree (fun x r => x.reason = r) (fun a b => b = a.account) (applyEvent job e)
      (track.step (job.map Job.account) e.entry) := by
  cases job with
  | none =>
    cases e with
    | jobOpened e => exact .ok rfl
    | _ => exact .error rfl
  | some job =>
    cases e with
    | jobOpened e => exact .error rfl
    | underwritingDecided e =>
      exact (currentJob_checks job _).agree_of_branch (by rintro ⟨⟩) (Letter.mem_allowedIn.trans Option.some_inj)
        (ite_not _ _ _) (job.account_moveTo rfl) rfl
    | principalReleased e =>
      have hallowed : some job.state ∈ Letter.allowedIn .released ↔ ¬(job.state ≠ .releasable ∧ job.state ≠ .executing) := by
        simp [Letter.mem_allowedIn, or_iff_not_imp_left]
      exact (currentJob_checks job _).agree_of_branch (by rintro ⟨⟩) hallowed (ite_not _ _ _).symm rfl rfl
    | closed e =>
      have hallowed : some job.state ∈ Letter.allowedIn .closed ↔ job.state = .evidenceSubmitted ∨ job.state = .disputed := by
        simp [Letter.mem_allowedIn]
      exact (currentJob_checks job _).agree_of_branch (by rintro ⟨⟩) hallowed rfl (job.account_moveTo rfl) rfl
    | _ e =>
      -- the three kinds that one state allows, each by an equality
      exact (currentJob_checks job _).agree_of_branch (by rintro ⟨⟩) (Letter.mem_allowedIn.trans Option.some_inj) rfl
        (job.account_moveTo rfl) rfl

/-- Only an opening event is accepted where there is no job. -/
theorem letter_of_applyEvent_none {e : ArsEvent} {job : Job} (h : applyEvent none e = .ok job) : e.letter = .opened := by
  cases e <;> first | rfl | cases h

/-- What `applyEvent` accepts on a job, and where it leads. -/
theorem applyEvent_some_iff {job job' : Job} {e : ArsEvent} :
    applyEvent (some job) e = .ok job' ↔ job.jobId = e.jobId ∧ some job.state ∈ e.letter.allowedIn ∧ job' = job.after e := by
  have hagree := applyEvent_refines (some job) e
  constructor
  · intro h
    obtain ⟨a, ha, rfl⟩ := hagree.of_ok h
    obtain ⟨hid, hin, hafter⟩ := track_some_iff.mp ha
    exact ⟨hid, hin, Job.account_injective hafter⟩
  · rintro ⟨hid, hin, rfl⟩
    obtain ⟨j, hj⟩ := hagree.isOk_iff.mpr ⟨_, track_some_iff.mpr ⟨hid, hin, rfl⟩⟩
    obtain ⟨a, ha, haj⟩ := hagree.of_ok hj
    rw [hj]
    obtain ⟨-, -, hafter⟩ := track_some_iff.mp ha
    exact congrArg _ (Job.account_injective (haj.symm.trans hafter))

/-! ## A log -/

/-- The loop of `replay` is the fold of the machine. -/
theorem replay_eq (events : List ArsEvent) : replay events = machine.replay events :=
  machine.forIn_eq_replay events rfl fun _ => rfl

/-- The TypeScript state machine refines the track. -/
def refinement : machine.Simulation track where
  state := Job.account
  event := ArsEvent.entry
  error x r := x.reason = r
  step := applyEvent_refines
  empty := rfl

/-- `replay` refines the track. -/
theorem replay_refines : RefinesTrack replay ArsEvent.entry Job.account ARSTransitionError.reason := by
  intro log
  rw [replay_eq]
  exact refinement.replay log

end ArsSolana.TypeScript
