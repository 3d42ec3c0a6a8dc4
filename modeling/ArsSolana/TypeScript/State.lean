import ArsSolana.TypeScript.Events

/-!
# `state.ts`: the principal-track state machine

`applyEvent` is the single transition function and `replay` folds a log through it. The `switch` of `applyEvent` covers the
six kinds that reach it, so over `ArsEvent` it never falls off its end.
-/

namespace ArsSolana.TypeScript

def TERMINAL : List PrincipalState := [.rejected, .closed]

/-- A job in a terminal state accepts no further events. -/
def isTerminal (state : PrincipalState) : Bool := state ∈ TERMINAL

structure Job where
  jobId : String
  /-- Agent wallet: the Telaro agent key. -/
  agent : String
  /-- DApp or capital provider that opened the job. -/
  requestor : String
  /-- Capital the agent handles for this job (USDC atomic). -/
  exposureAtomic : Int
  state : PrincipalState
  /-- Principal released to the agent so far (atomic). -/
  releasedAtomic : Int
  /-- `at` of the most recently applied event. -/
  lastEventAt : Int
  deriving DecidableEq, Repr

/-- Thrown by `applyEvent` for any illegal transition: the text, and which of the checks threw it. -/
structure ARSTransitionError where
  reason : Reason
  message : String
  deriving DecidableEq, Repr

/-- The checks between the opening branch and the `switch` over the other six kinds. -/
def currentJob (job : Option Job) (event : ArsEvent) : Except ARSTransitionError Job :=
  match job with
  | none => .error ⟨.unknownJob, s!"{event.type} for unknown job {event.jobId}"⟩
  | some job =>
    if job.jobId ≠ event.jobId then
      .error ⟨.jobIdMismatch, s!"event jobId {event.jobId} does not match job {job.jobId}"⟩
    else if isTerminal job.state then
      .error ⟨.terminalJob, s!"{event.type}: job {job.jobId} is terminal ({job.state})"⟩
    else
      .ok job

/-- `to` without a patch: the job in its next state. -/
def Job.moveTo (j : Job) (event : ArsEvent) (state : PrincipalState) : Job :=
  { j with state := state, lastEventAt := event.atTime }

/-- `illegal`. -/
def Job.illegal (j : Job) (event : ArsEvent) : Except ARSTransitionError Job :=
  .error ⟨.notAllowed, s!"{event.type} is not allowed in state {j.state}"⟩

/-- Apply one event to a job. Pass `none` (`null`) as `job` only for the opening `JobOpened` event. -/
def applyEvent (job : Option Job) (event : ArsEvent) : Except ARSTransitionError Job :=
  match event with
  | .jobOpened opened =>
    match job with
    | some _ => .error ⟨.jobExists, s!"JobOpened for {opened.jobId}: job already exists"⟩
    | none =>
      .ok {
        jobId := opened.jobId
        agent := opened.agent
        requestor := opened.requestor
        exposureAtomic := opened.exposureAtomic
        state := .awaitUnderwriting
        releasedAtomic := 0
        lastEventAt := opened.atTime }
  | .underwritingStarted _ => do
    let j ← currentJob job event
    if j.state = .awaitUnderwriting then .ok (j.moveTo event .underwriting) else j.illegal event
  | .underwritingDecided decided => do
    let j ← currentJob job event
    if j.state ≠ .underwriting then j.illegal event
    else .ok (j.moveTo event (if decided.passed then .releasable else .rejected))
  | .principalReleased released => do
    let j ← currentJob job event
    -- The credit line supports repeated draws, so EXECUTING accepts another one.
    if j.state ≠ .releasable ∧ j.state ≠ .executing then j.illegal event
    else .ok { j.moveTo event .executing with releasedAtomic := j.releasedAtomic + released.amountAtomic }
  | .evidenceSubmitted _ => do
    let j ← currentJob job event
    if j.state = .executing then .ok (j.moveTo event .evidenceSubmitted) else j.illegal event
  | .disputed _ => do
    let j ← currentJob job event
    if j.state = .evidenceSubmitted then .ok (j.moveTo event .disputed) else j.illegal event
  | .closed _ => do
    let j ← currentJob job event
    if j.state = .evidenceSubmitted ∨ j.state = .disputed then .ok (j.moveTo event .closed) else j.illegal event

/-- Derive the current job by replaying its full event log. -/
def replay (events : List ArsEvent) : Except ARSTransitionError Job := do
  let mut job : Option Job := none
  for event in events do
    job := some (← applyEvent job event)
  match job with
  | none => .error ⟨.emptyLog, "cannot replay an empty event log"⟩
  | some last => .ok last

end ArsSolana.TypeScript
