import ArsSolana.Track
import ArsSolana.Python.State

/-!
# `state.py` refines the track

`applyEvent` takes the steps of `track` on what the track sees of its events and jobs, and refuses for the same reason.
-/

namespace ArsSolana.Python

open EventSourcing EventSourcing.Machine

def ArsEvent.move : ArsEvent → Move
  | jobOpened e => .opened e.agent e.requestor e.exposureAtomic
  | underwritingStarted _ => .started
  | underwritingDecided e => .decided e.passed
  | principalReleased e => .released e.amountAtomic
  | evidenceSubmitted _ => .evidence
  | disputed _ => .disputed
  | closed _ => .closed

/-- What the track sees of an event. -/
def ArsEvent.entry (e : ArsEvent) : Entry := ⟨e.jobId, e.atTime, e.move⟩

def ArsEvent.letter (e : ArsEvent) : Letter := e.move.letter

/-- What the track sees of a job: everything. -/
def Job.account (j : Job) : Account :=
  ⟨j.jobId, j.agent, j.requestor, j.exposureAtomic, j.state, j.releasedAtomic, j.lastEventAt⟩

/-- A job is known by its account. -/
theorem Job.account_injective : Function.Injective Job.account := by
  intro a b h
  cases a
  cases b
  simpa [Job.account] using h

@[simp] theorem ArsEvent.letter_entry (e : ArsEvent) : e.entry.letter = e.letter := rfl

/-! ## One event -/

/-- The transition function as an event-sourced machine. -/
def machine : Machine Job ArsEvent ARSTransitionError where
  step := applyEvent
  empty := ⟨.emptyLog, "cannot replay an empty event log"⟩

/-- An event that releases nothing moves the job, and leaves the released principal. -/
theorem Job.account_moveTo (job : Job) {e : ArsEvent} (h : e.move.amount = 0) :
    (job.moveTo e e.letter.state).account = job.account.after e.entry := by
  simp only [Job.account, Job.moveTo, Account.after, Entry.amount, ArsEvent.entry, h, Int.add_zero]
  rfl

/-- `currentJob` makes the checks of the track, in its order. -/
theorem currentJob_checks (job : Job) (e : ArsEvent) :
    ChecksJob Job.account ARSTransitionError.reason job e.entry (currentJob (some job) e) where
  mismatch h := ⟨_, if_pos h, rfl⟩
  terminal hid h := ⟨_, (if_neg (not_not_intro hid)).trans (if_pos (decide_eq_true h)), rfl⟩
  handed hid h := (if_neg (not_not_intro hid)).trans (if_neg (by simpa [isTerminal, TERMINAL, Job.account] using h))

/-- `applyEvent` takes the steps of the track. -/
theorem applyEvent_refines (job : Option Job) (e : ArsEvent) :
    Outcome.Agree (fun x r => x.reason = r) (fun a b => b = a.account) (applyEvent job e)
      (track.step (job.map Job.account) e.entry) := by
  cases job with
  | none =>
    cases e with
    | jobOpened e => exact .ok rfl
    | _ => exact .error rfl
  | some job =>
    cases e with
    | jobOpened e => exact .error rfl
    | principalReleased e =>
      have hallowed : some job.state ∈ Letter.allowedIn .released ↔ job.state ∈ [PrincipalState.releasable, .executing] := by
        simp [Letter.mem_allowedIn]
      exact (currentJob_checks job _).agree_of_branch (by rintro ⟨⟩) hallowed (ite_not _ _ _) rfl rfl
    | closed e =>
      have hallowed : some job.state ∈ Letter.allowedIn .closed ↔ job.state ∈ [PrincipalState.evidenceSubmitted, .disputed] := by
        simp [Letter.mem_allowedIn]
      exact (currentJob_checks job _).agree_of_branch (by rintro ⟨⟩) hallowed (ite_not _ _ _) (job.account_moveTo rfl) rfl
    | _ e =>
      -- the four kinds that one state allows
      exact (currentJob_checks job _).agree_of_branch (by rintro ⟨⟩) (Letter.mem_allowedIn.trans Option.some_inj)
        (ite_not _ _ _) (job.account_moveTo rfl) rfl

/-! ## A log -/

/-- The loop of `replay` is the fold of the machine. -/
theorem replay_eq (events : List ArsEvent) : replay events = machine.replay events :=
  machine.forIn_eq_replay events rfl fun _ => rfl

/-- The Python state machine refines the track. -/
def refinement : machine.Simulation track where
  state := Job.account
  event := ArsEvent.entry
  error x r := x.reason = r
  step := applyEvent_refines
  empty := rfl

/-- `replay` refines the track. -/
theorem replay_refines : RefinesTrack replay ArsEvent.entry Job.account ARSTransitionError.reason := by
  intro log
  rw [replay_eq]
  exact refinement.replay log

end ArsSolana.Python
