import ArsSolana.Library.OrderedMap
import ArsSolana.TypeScript.State

/-!
# `store.ts`: the in-memory event store

The methods are async but suspend nowhere, so a call is one step. What a call has written before it throws stays written:
`StoreM` carries the store through a throw.
-/

namespace ArsSolana.TypeScript

/-- A `Map` of per-job event logs. -/
structure InMemoryEventStore where
  logs : OrderedMap String (List ArsEvent)

/-- A method of the store: it may write, and it may throw. -/
abbrev StoreM := ExceptT ARSTransitionError (StateM InMemoryEventStore)

namespace InMemoryEventStore

def new : InMemoryEventStore := ⟨.empty⟩

/-- Append one event, unless it is not a legal transition for the job's current state. -/
def append (event : ArsEvent) : StoreM Unit := do
  let existing := ((← get).logs.get event.jobId).getD []
  let current ← liftExcept (if existing.length > 0 then some <$> replay existing else .ok none)
  let _ ← liftExcept (applyEvent current event)
  modify fun store => { store with logs := store.logs.set event.jobId (existing ++ [event]) }
where
  liftExcept {α : Type} (result : Except ARSTransitionError α) : StoreM α := ExceptT.mk (pure result)

/-- The ordered event log for a job, empty if the job is unknown. -/
def log (store : InMemoryEventStore) (jobId : String) : List ArsEvent := (store.logs.get jobId).getD []

/-- The current derived job, or `none` if it has no events. -/
def job (store : InMemoryEventStore) (jobId : String) : Except ARSTransitionError (Option Job) :=
  match store.logs.get jobId with
  | none => .ok none
  | some events => if events.length > 0 then some <$> replay events else .ok none

/-- Every job id the store has seen. -/
def jobIds (store : InMemoryEventStore) : List String := store.logs.keys

/-! ## Calls -/

/-- One call of `append`: how it ended, and the store it left. -/
def call (store : InMemoryEventStore) (event : ArsEvent) : Except ARSTransitionError Unit × InMemoryEventStore :=
  (append event).run.run store

/-- A run of calls, going on after each that throws: each event with how its call ended, and the store at the end. -/
def calls : InMemoryEventStore → List ArsEvent → List (ArsEvent × Except ARSTransitionError Unit) × InMemoryEventStore
  | store, [] => ([], store)
  | store, event :: events =>
    let (outcome, store) := store.call event
    let (outcomes, store) := store.calls events
    ((event, outcome) :: outcomes, store)

/-- The store after a run of calls on a fresh one. -/
def after (events : List ArsEvent) : InMemoryEventStore := (new.calls events).2

/-- Each event of a run on a fresh store, with how its call ended. -/
def outcomes (events : List ArsEvent) : List (ArsEvent × Except ARSTransitionError Unit) := (new.calls events).1

/-- The events of a run whose calls succeeded, in order. -/
def succeeded (events : List ArsEvent) : List ArsEvent := ((outcomes events).filter (fun o => o.2.isOk)).map (·.1)

end InMemoryEventStore

end ArsSolana.TypeScript
