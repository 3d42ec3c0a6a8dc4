import Mathlib

/-!
# The words both implementations share

The string literals of the principal track (lifecycle states, outcomes, resolutions), spelled alike in `state.py`,
`events.py` and in `state.ts`, `events.ts`, and the reasons for which a transition is refused.
-/

namespace ArsSolana

/-- Principal-track lifecycle states. -/
inductive PrincipalState where
  | awaitUnderwriting | underwriting | rejected | releasable | executing | evidenceSubmitted | disputed | closed
  deriving DecidableEq, Repr

/-- The literal of a state. -/
def PrincipalState.text : PrincipalState → String
  | .awaitUnderwriting => "AWAIT_UNDERWRITING"
  | .underwriting => "UNDERWRITING"
  | .rejected => "REJECTED"
  | .releasable => "RELEASABLE"
  | .executing => "EXECUTING"
  | .evidenceSubmitted => "EVIDENCE_SUBMITTED"
  | .disputed => "DISPUTED"
  | .closed => "CLOSED"

instance : ToString PrincipalState := ⟨PrincipalState.text⟩

/-- The recorded result of the agent's execution. -/
inductive Outcome where
  | success | failed
  deriving DecidableEq, Repr

/-- The literal of an outcome. -/
def Outcome.text : Outcome → String
  | .success => "success"
  | .failed => "failed"

/-- How a job was closed: the dispute window expired clean, or a claim was resolved against or for the agent. -/
inductive Resolution where
  | noDispute | disputeUpheld | disputeRejected
  deriving DecidableEq, Repr

/-- The literal of a resolution. -/
def Resolution.text : Resolution → String
  | .noDispute => "no_dispute"
  | .disputeUpheld => "dispute_upheld"
  | .disputeRejected => "dispute_rejected"

/-- Which of its checks refused a transition. Each value names one `raise` of `state.py` and one `throw` of `state.ts`. -/
inductive Reason where
  | jobExists | unknownJob | jobIdMismatch | terminalJob | notAllowed | emptyLog
  deriving DecidableEq, Repr

end ArsSolana
