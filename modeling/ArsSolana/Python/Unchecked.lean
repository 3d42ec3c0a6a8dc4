import ArsSolana.Python.State

/-!
# `state.py` on records of any class

The annotation `ArsEvent` is not checked at run time. `apply_event` asks for the class of an event, and raises at its end on a
class it does not know.
-/

namespace ArsSolana.Python.Unchecked

/-- A record: an event of the union, or an object of another class that has the fields `apply_event` reads. -/
inductive Record where
  | event (e : ArsEvent)
  | foreign (jobId : String) (atTime : Int) (type className : String)
  deriving DecidableEq

/-- What `apply_event` raises, an `ARSTransitionError` either way. -/
inductive TransitionError where
  | refused (e : ARSTransitionError)
  | unknownEventType (message : String)
  deriving DecidableEq, Repr

/-- Apply one record to a job. -/
def applyEvent (job : Option Job) (record : Record) : Except TransitionError Job :=
  match record with
  | .event e => (Python.applyEvent job e).mapError .refused
  | .foreign jobId _ type className =>
    match job with
    | none => .error (.refused ⟨.unknownJob, s!"{type} for unknown job {jobId}"⟩)
    | some job =>
      if job.jobId ≠ jobId then
        .error (.refused ⟨.jobIdMismatch, s!"event job_id {jobId} does not match job {job.jobId}"⟩)
      else if isTerminal job.state then
        .error (.refused ⟨.terminalJob, s!"{type}: job {job.jobId} is terminal ({job.state})"⟩)
      else
        .error (.unknownEventType s!"unknown event type: {className}")

/-- An object of an unknown class is refused in every state. -/
theorem applyEvent_foreign (job : Option Job) (jobId : String) (atTime : Int) (type className : String) :
    ∃ x, applyEvent job (.foreign jobId atTime type className) = .error x := by
  unfold applyEvent
  cases job with
  | none => exact ⟨_, rfl⟩
  | some job =>
    by_cases hid : job.jobId ≠ jobId
    · exact ⟨_, if_pos hid⟩
    · simp only [hid, if_false]
      split
      · exact ⟨_, rfl⟩
      · exact ⟨_, rfl⟩

end ArsSolana.Python.Unchecked
