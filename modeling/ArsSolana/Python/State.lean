import ArsSolana.Python.Events

/-!
# `state.py`: the principal-track state machine

`applyEvent` is the single transition function and `replay` folds a log through it. The last `raise` of `apply_event`
(unknown event type) is out of reach of the seven kinds of `ArsEvent`.
-/

namespace ArsSolana.Python

def TERMINAL : List PrincipalState := [.rejected, .closed]

/-- A job in a terminal state accepts no further events. -/
def isTerminal (state : PrincipalState) : Bool := state ∈ TERMINAL

/-- A job's full derived state. -/
structure Job where
  jobId : String
  agent : String
  requestor : String
  exposureAtomic : Int
  state : PrincipalState
  releasedAtomic : Int
  lastEventAt : Int
  deriving DecidableEq, Repr

/-- Raised by `applyEvent` for any illegal transition: the text, and which of the checks raised it. -/
structure ARSTransitionError where
  reason : Reason
  message : String
  deriving DecidableEq, Repr

/-- The checks between the opening branch and the branches of the other six kinds. -/
def currentJob (job : Option Job) (event : ArsEvent) : Except ARSTransitionError Job :=
  match job with
  | none => .error ⟨.unknownJob, s!"{event.type} for unknown job {event.jobId}"⟩
  | some job =>
    if job.jobId ≠ event.jobId then
      .error ⟨.jobIdMismatch, s!"event job_id {event.jobId} does not match job {job.jobId}"⟩
    else if isTerminal job.state then
      .error ⟨.terminalJob, s!"{event.type}: job {job.jobId} is terminal ({job.state})"⟩
    else
      .ok job

/-- `_to` without a patch: the job in its next state. -/
def Job.moveTo (job : Job) (event : ArsEvent) (state : PrincipalState) : Job :=
  { job with state := state, lastEventAt := event.atTime }

/-- `_illegal`. -/
def Job.illegal (job : Job) (event : ArsEvent) : Except ARSTransitionError Job :=
  .error ⟨.notAllowed, s!"{event.type} is not allowed in state {job.state}"⟩

/-- Apply one event to a job. Pass `none` as `job` only for the opening `JobOpened` event. -/
def applyEvent (job : Option Job) (event : ArsEvent) : Except ARSTransitionError Job :=
  match event with
  | .jobOpened opened =>
    match job with
    | some _ => .error ⟨.jobExists, s!"JobOpened for {opened.jobId}: job already exists"⟩
    | none =>
      .ok {
        jobId := opened.jobId
        agent := opened.agent
        requestor := opened.requestor
        exposureAtomic := opened.exposureAtomic
        state := .awaitUnderwriting
        releasedAtomic := 0
        lastEventAt := opened.atTime }
  | .underwritingStarted _ => do
    let job ← currentJob job event
    if job.state ≠ .awaitUnderwriting then job.illegal event
    else .ok (job.moveTo event .underwriting)
  | .underwritingDecided decided => do
    let job ← currentJob job event
    if job.state ≠ .underwriting then job.illegal event
    else .ok (job.moveTo event (if decided.passed then .releasable else .rejected))
  | .principalReleased released => do
    let job ← currentJob job event
    -- The credit line supports repeated draws, so EXECUTING accepts another one.
    if job.state ∉ [PrincipalState.releasable, .executing] then job.illegal event
    else .ok { job.moveTo event .executing with releasedAtomic := job.releasedAtomic + released.amountAtomic }
  | .evidenceSubmitted _ => do
    let job ← currentJob job event
    if job.state ≠ .executing then job.illegal event
    else .ok (job.moveTo event .evidenceSubmitted)
  | .disputed _ => do
    let job ← currentJob job event
    if job.state ≠ .evidenceSubmitted then job.illegal event
    else .ok (job.moveTo event .disputed)
  | .closed _ => do
    let job ← currentJob job event
    if job.state ∉ [PrincipalState.evidenceSubmitted, .disputed] then job.illegal event
    else .ok (job.moveTo event .closed)

/-- Derive the current job by replaying its full event log. -/
def replay (events : List ArsEvent) : Except ARSTransitionError Job := do
  let mut job : Option Job := none
  for event in events do
    job := some (← applyEvent job event)
  match job with
  | none => .error ⟨.emptyLog, "cannot replay an empty event log"⟩
  | some last => .ok last

end ArsSolana.Python
