import ArsSolana.Principal

/-!
# `events.ts`: the seven event kinds

A `bigint` is unbounded, so amounts are `Int`. `at` (Unix seconds) is only ever copied and is an `Int` too; the field is
`atTime` here (`at` is a keyword).
-/

namespace ArsSolana.TypeScript

/-- Fields every event carries. -/
structure BaseEvent where
  /-- ARS job id: the telaro `action_hash`. -/
  jobId : String
  /-- Unix seconds the event was recorded. -/
  atTime : Int
  deriving DecidableEq, Repr

/-- A capital-handling job is opened by a DApp delegating to an agent. -/
structure JobOpened extends BaseEvent where
  agent : String
  requestor : String
  exposureAtomic : Int
  deriving DecidableEq, Repr

/-- Underwriting review has begun. -/
structure UnderwritingStarted extends BaseEvent where
  deriving DecidableEq, Repr

/-- The underwriting verdict: `view_bond` passed or failed. -/
structure UnderwritingDecided extends BaseEvent where
  passed : Bool
  failureCode : Option String := none
  deriving DecidableEq, Repr

/-- Principal was released to the agent. -/
structure PrincipalReleased extends BaseEvent where
  amountAtomic : Int
  deriving DecidableEq, Repr

/-- The agent's execution result was recorded. -/
structure EvidenceSubmitted extends BaseEvent where
  actionHash : String
  outcome : Outcome
  deriving DecidableEq, Repr

/-- A claim was filed against the job. -/
structure Disputed extends BaseEvent where
  claim : String
  deriving DecidableEq, Repr

/-- The job reached a terminal outcome. -/
structure Closed extends BaseEvent where
  resolution : Resolution
  deriving DecidableEq, Repr

inductive ArsEvent where
  | jobOpened (e : JobOpened)
  | underwritingStarted (e : UnderwritingStarted)
  | underwritingDecided (e : UnderwritingDecided)
  | principalReleased (e : PrincipalReleased)
  | evidenceSubmitted (e : EvidenceSubmitted)
  | disputed (e : Disputed)
  | closed (e : Closed)
  deriving DecidableEq, Repr

namespace ArsEvent

def base : ArsEvent → BaseEvent
  | jobOpened e => e.toBaseEvent
  | underwritingStarted e => e.toBaseEvent
  | underwritingDecided e => e.toBaseEvent
  | principalReleased e => e.toBaseEvent
  | evidenceSubmitted e => e.toBaseEvent
  | disputed e => e.toBaseEvent
  | closed e => e.toBaseEvent

def jobId (e : ArsEvent) : String := e.base.jobId

def atTime (e : ArsEvent) : Int := e.base.atTime

/-- The `type` tag. -/
def type : ArsEvent → String
  | jobOpened _ => "JobOpened"
  | underwritingStarted _ => "UnderwritingStarted"
  | underwritingDecided _ => "UnderwritingDecided"
  | principalReleased _ => "PrincipalReleased"
  | evidenceSubmitted _ => "EvidenceSubmitted"
  | disputed _ => "Disputed"
  | closed _ => "Closed"

end ArsEvent

end ArsSolana.TypeScript
