import ArsSolana.TypeScript.Store

/-!
# `state.ts` and `store.ts` on records of any tag

The annotation `ArsEvent` is gone at run time: a log that comes back from a durable store may hold a record whose `type` is any
string. Here the functions of the two files are followed on such records. `undefined`, which a function returns where it falls
off its end, is falsy as `null` is, and is `none` as well.
-/

namespace ArsSolana.TypeScript.Unchecked

/-- The tags of the union `ArsEvent`. -/
def tags : List String :=
  ["JobOpened", "UnderwritingStarted", "UnderwritingDecided", "PrincipalReleased", "EvidenceSubmitted", "Disputed", "Closed"]

/-- A record: an event of the union, or the fields every event carries under a tag outside the union. -/
inductive Record where
  | event (e : ArsEvent)
  | foreign (base : BaseEvent) (type : String) (outside : type ∉ tags)
  deriving DecidableEq

def Record.jobId : Record → String
  | event e => e.jobId
  | foreign base _ _ => base.jobId

def Record.type : Record → String
  | event e => e.type
  | foreign _ type _ => type

/-- Apply one record to a job. The checks before the `switch` are made on every tag but `JobOpened`. -/
def applyEvent (job : Option Job) (record : Record) : Except ARSTransitionError (Option Job) :=
  match record with
  | .event e => some <$> TypeScript.applyEvent job e
  | .foreign base type _ =>
    match job with
    | none => .error ⟨.unknownJob, s!"{type} for unknown job {base.jobId}"⟩
    | some job =>
      if job.jobId ≠ base.jobId then
        .error ⟨.jobIdMismatch, s!"event jobId {base.jobId} does not match job {job.jobId}"⟩
      else if isTerminal job.state then
        .error ⟨.terminalJob, s!"{type}: job {job.jobId} is terminal ({job.state})"⟩
      else
        -- The `switch` has no `case` for the tag and no `default`: the function returns `undefined`.
        .ok none

/-- Derive the current job by replaying its full event log. -/
def replay (records : List Record) : Except ARSTransitionError Job := do
  let mut job : Option Job := none
  for record in records do
    job ← applyEvent job record
  match job with
  | none => .error ⟨.emptyLog, "cannot replay an empty event log"⟩
  | some last => .ok last

/-- A `Map` of per-job event logs. -/
structure InMemoryEventStore where
  logs : OrderedMap String (List Record)

/-- A method of the store: it may write, and it may throw. -/
abbrev StoreM := ExceptT ARSTransitionError (StateM InMemoryEventStore)

namespace InMemoryEventStore

def new : InMemoryEventStore := ⟨.empty⟩

/-- Append one record, unless `applyEvent` throws on it. What `applyEvent` returns is not looked at. -/
def append (record : Record) : StoreM Unit := do
  let existing := ((← get).logs.get record.jobId).getD []
  let current ← liftExcept (if existing.length > 0 then some <$> replay existing else .ok none)
  let _ ← liftExcept (applyEvent current record)
  modify fun store => { store with logs := store.logs.set record.jobId (existing ++ [record]) }
where
  liftExcept {α : Type} (result : Except ARSTransitionError α) : StoreM α := ExceptT.mk (pure result)

/-- The ordered log for a job, empty if the job is unknown. -/
def log (store : InMemoryEventStore) (jobId : String) : List Record := (store.logs.get jobId).getD []

/-- The current derived job, or `none` if it has no events. -/
def job (store : InMemoryEventStore) (jobId : String) : Except ARSTransitionError (Option Job) :=
  match store.logs.get jobId with
  | none => .ok none
  | some records => if records.length > 0 then some <$> replay records else .ok none

/-- One call of `append`: how it ended, and the store it left. -/
def call (store : InMemoryEventStore) (record : Record) : Except ARSTransitionError Unit × InMemoryEventStore :=
  (append record).run.run store

/-- The store after a run of calls on a fresh one, going on after each that throws. -/
def after (records : List Record) : InMemoryEventStore := records.foldl (fun store record => (store.call record).2) new

end InMemoryEventStore

end ArsSolana.TypeScript.Unchecked
