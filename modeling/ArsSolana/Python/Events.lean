import ArsSolana.Principal

/-!
# `events.py`: the seven event kinds

Python integers are unbounded, so amounts and times are `Int`; texts are of whole characters, without lone surrogates. The field
`at` is `atTime` here (`at` is a keyword).
-/

namespace ArsSolana.Python

/-- A capital-handling job is opened by a DApp delegating to an agent. -/
structure JobOpened where
  jobId : String
  atTime : Int
  agent : String
  requestor : String
  exposureAtomic : Int
  deriving DecidableEq, Repr

/-- Underwriting review has begun. -/
structure UnderwritingStarted where
  jobId : String
  atTime : Int
  deriving DecidableEq, Repr

/-- The underwriting verdict. -/
structure UnderwritingDecided where
  jobId : String
  atTime : Int
  passed : Bool
  failureCode : Option String := none
  deriving DecidableEq, Repr

/-- Principal was released to the agent. -/
structure PrincipalReleased where
  jobId : String
  atTime : Int
  amountAtomic : Int
  deriving DecidableEq, Repr

/-- The agent's execution result was recorded. -/
structure EvidenceSubmitted where
  jobId : String
  atTime : Int
  actionHash : String
  outcome : Outcome
  deriving DecidableEq, Repr

/-- A claim was filed against the job. -/
structure Disputed where
  jobId : String
  atTime : Int
  claim : String
  deriving DecidableEq, Repr

/-- The job reached a terminal outcome. -/
structure Closed where
  jobId : String
  atTime : Int
  resolution : Resolution
  deriving DecidableEq, Repr

inductive ArsEvent where
  | jobOpened (e : JobOpened)
  | underwritingStarted (e : UnderwritingStarted)
  | underwritingDecided (e : UnderwritingDecided)
  | principalReleased (e : PrincipalReleased)
  | evidenceSubmitted (e : EvidenceSubmitted)
  | disputed (e : Disputed)
  | closed (e : Closed)
  deriving DecidableEq, Repr

namespace ArsEvent

def jobId : ArsEvent → String
  | jobOpened e => e.jobId
  | underwritingStarted e => e.jobId
  | underwritingDecided e => e.jobId
  | principalReleased e => e.jobId
  | evidenceSubmitted e => e.jobId
  | disputed e => e.jobId
  | closed e => e.jobId

def atTime : ArsEvent → Int
  | jobOpened e => e.atTime
  | underwritingStarted e => e.atTime
  | underwritingDecided e => e.atTime
  | principalReleased e => e.atTime
  | evidenceSubmitted e => e.atTime
  | disputed e => e.atTime
  | closed e => e.atTime

/-- The `type` tag, a default of each dataclass. -/
def type : ArsEvent → String
  | jobOpened _ => "JobOpened"
  | underwritingStarted _ => "UnderwritingStarted"
  | underwritingDecided _ => "UnderwritingDecided"
  | principalReleased _ => "PrincipalReleased"
  | evidenceSubmitted _ => "EvidenceSubmitted"
  | disputed _ => "Disputed"
  | closed _ => "Closed"

end ArsEvent

end ArsSolana.Python
