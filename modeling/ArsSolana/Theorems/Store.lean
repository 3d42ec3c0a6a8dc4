import ArsSolana.Lemmas.StoreRefinement

/-!
# What the store promises

The event-sourced store behaves as the reference store that keeps one current job for each id, over any run of appends, and a
job sees only its own events, whatever is interleaved with them.
-/

namespace ArsSolana.TypeScript

open EventSourcing InMemoryEventStore

/-- The events of a job whose calls succeeded are the accepted ones of its own events. -/
theorem succeeded_filter (events : List ArsEvent) (j : String) :
    (succeeded events).filter (fun e => e.jobId = j) = (after events).log j := by
  have hcomm : (succeeded events).filter (fun e => e.jobId = j) =
      (((outcomes events).filter (fun o => o.1.jobId = j)).filter (fun o => o.2.isOk)).map (·.1) := by
    rw [succeeded, List.filter_map, List.filter_filter, List.filter_filter]
    congr 1
    exact List.filter_congr (fun o _ => Bool.and_comm _ _)
  rw [hcomm, outcomes_filter, log_after, Machine.accepted, Machine.kept, List.filter_map, List.map_map]
  have hok : ∀ v : ArsEvent × Option ARSTransitionError, (ended v.2).isOk = v.2.isNone := by
    rintro ⟨e, v⟩
    cases v <;> rfl
  simp only [Function.comp_def, hok]

/-- The store after a run of calls, and its next call, against the reference store. -/
structure Simulates (events : List ArsEvent) : Prop where
  /-- The next call succeeds, or throws what it throws, as `applyEvent` does on the reference job. -/
  outcome : ∀ event, ((after events).call event).1 = (applyEvent (reference events event.jobId) event).map fun _ => ()
  /-- A call that throws leaves every log and the list of ids. -/
  rejected : ∀ event x, ((after events).call event).1 = .error x →
    (∀ j, (after (events ++ [event])).log j = (after events).log j) ∧ (after (events ++ [event])).jobIds = (after events).jobIds
  /-- A log is the ordered list of the job's events whose calls succeeded. -/
  log : ∀ j, (after events).log j = (succeeded events).filter (fun e => e.jobId = j)
  /-- `job` never throws, and returns the reference job. -/
  job : ∀ j, (after events).job j = .ok (reference events j)
  /-- There is no reference job exactly when no call for it succeeded. -/
  unknown : ∀ j, reference events j = none ↔ ∀ e ∈ succeeded events, e.jobId ≠ j
  /-- The ids are those of the non-empty logs, each once. -/
  ids : (after events).jobIds.Nodup ∧ ∀ j, j ∈ (after events).jobIds ↔ (after events).log j ≠ []

/-- A call ends as `applyEvent` does on the reference job. -/
theorem outcome_call (events : List ArsEvent) (event : ArsEvent) :
    ((after events).call event).1 = (applyEvent (reference events event.jobId) event).map fun _ => () := by
  rw [((after events).call_refines event).2, ((tracks_after events).append ArsEvent.jobId event).1]
  rw [Machine.verdict, machine_step]
  cases applyEvent (reference events event.jobId) event <;> rfl

/-- There is no job exactly where no call went through. -/
theorem reference_none_iff (events : List ArsEvent) (j : String) :
    reference events j = none ↔ ∀ e ∈ succeeded events, e.jobId ≠ j := by
  rw [reference_apply, Machine.settle_none_iff, ← log_after, ← succeeded_filter, List.filter_eq_nil_iff]
  simp

/-- Over every run of appends on a fresh store, the event-sourced store is the reference store. -/
theorem store_simulates :
    (∀ j, reference [] j = none) ∧
      (∀ events event, reference (events ++ [event]) =
        match applyEvent (reference events event.jobId) event with
        | .ok job => Function.update (reference events) event.jobId (some job)
        | .error _ => reference events) ∧
      ∀ events, Simulates events := by
  refine ⟨fun _ => rfl, reference_concat, fun events => ?_⟩
  exact {
    outcome := outcome_call events
    rejected := by
      intro event x h
      rw [after_concat, call_error h]
      exact ⟨fun _ => rfl, rfl⟩
    log := fun j => (succeeded_filter events j).symm
    job := job_after events
    unknown := reference_none_iff events
    ids := ⟨(after events).logs.keys_nodup, kept_after events⟩ }

/-! ## Two runs -/

/-- Two runs of appends that offer each job the same events in the same order, however they are interleaved, end each call on a
job alike and leave the same logs, the same jobs and the same ids. -/
theorem jobs_independent (events events' : List ArsEvent)
    (h : ∀ j, events.filter (fun e => e.jobId = j) = events'.filter (fun e => e.jobId = j)) :
    (∀ j, (outcomes events).filter (fun o => o.1.jobId = j) = (outcomes events').filter (fun o => o.1.jobId = j)) ∧
      (∀ j, (after events).log j = (after events').log j) ∧ (∀ j, (after events).job j = (after events').job j) ∧
      ∀ j, j ∈ (after events).jobIds ↔ j ∈ (after events').jobIds := by
  have hlog : ∀ j, (after events).log j = (after events').log j := by
    intro j
    rw [log_after, log_after, h j]
  refine ⟨?outcomes, hlog, ?job, ?ids⟩
  case outcomes =>
    intro j
    rw [outcomes_filter, outcomes_filter, h j]
  case job =>
    intro j
    rw [job_after, job_after, reference_apply, reference_apply, h j]
  case ids =>
    intro j
    rw [kept_after events j, kept_after events' j, hlog j]

/-- Two jobs, one after the other or interleaved with a refused event in between. -/
theorem jobs_independent_interleaved :
    let a : ArsEvent := .jobOpened ⟨⟨"a", 1⟩, "agent", "requestor", 5⟩
    let b : ArsEvent := .jobOpened ⟨⟨"b", 2⟩, "agent", "requestor", 7⟩
    let a' : ArsEvent := .underwritingStarted ⟨⟨"a", 3⟩⟩
    let b' : ArsEvent := .closed ⟨⟨"b", 4⟩, .noDispute⟩
    (after [a, a', b, b']).log "a" = (after [b, a, b', a']).log "a" := by
  intro a b a' b'
  refine (jobs_independent [a, a', b, b'] [b, a, b', a'] ?_).2.1 "a"
  intro j
  by_cases ha : "a" = j <;> by_cases hb : "b" = j <;>
    simp [a, a', b, b', ArsEvent.jobId, ArsEvent.base, ha, hb]
  exact absurd (ha.trans hb.symm) (by decide)

end ArsSolana.TypeScript
