import ArsSolana.Library.KeyedLogs
import ArsSolana.Lemmas.TypeScriptTrack
import ArsSolana.TypeScript.Store

/-!
# `store.ts` is a store of logs kept apart by job

`append` replays the whole log of the event's job and then applies the event: this is the log store of the library, over
`applyEvent` and with the job ids as keys. What the library says of the log store is here said of `InMemoryEventStore`.
-/

namespace ArsSolana.TypeScript

open EventSourcing

/-! ## One call -/

/-- The job `append` reads back is the fold of the log. -/
theorem current_eq (existing : List ArsEvent) :
    (if existing.length > 0 then some <$> replay existing else .ok none) = machine.run none existing := by
  rw [replay_eq]
  cases existing with
  | nil => rfl
  | cons e es =>
    rw [if_pos (by simp)]
    unfold Machine.replay
    cases h : machine.run none (e :: es) with
    | error x => rfl
    | ok s =>
      obtain ⟨t, rfl⟩ := machine.run_some h (by simp)
      rfl

/-- The body of a method that reads, checks what it read, and writes; it throws where the reading or the check fails. -/
def checkedWrite {S χ α β : Type} (read : Except χ α) (check : α → Except χ β) (write : S → S) : ExceptT χ (StateM S) PUnit :=
  ExceptT.mk (pure read) >>= fun a => ExceptT.mk (pure (check a)) >>= fun _ => modify write

/-- The three ends of such a method: nothing is read, the check fails, or the store is written. -/
theorem checkedWrite_cases {S χ α β : Type} (read : Except χ α) (check : α → Except χ β) (write : S → S) (store : S) :
    (∃ x, read = .error x ∧ (checkedWrite read check write).run.run store = (.error x, store)) ∨
    (∃ a x, read = .ok a ∧ check a = .error x ∧ (checkedWrite read check write).run.run store = (.error x, store)) ∨
    ∃ a b, read = .ok a ∧ check a = .ok b ∧ (checkedWrite read check write).run.run store = (.ok (), write store) := by
  cases read with
  | error x => exact Or.inl ⟨x, rfl, rfl⟩
  | ok a =>
    have hrun : (checkedWrite (.ok a) check write).run.run store =
        (ExceptT.mk (pure (check a)) >>= fun _ => (modify write : ExceptT χ (StateM S) PUnit)).run.run store := rfl
    rw [hrun]
    cases hcheck : check a with
    | error x => exact Or.inr (Or.inl ⟨a, x, rfl, hcheck, rfl⟩)
    | ok b => exact Or.inr (Or.inr ⟨a, b, rfl, hcheck, rfl⟩)

namespace InMemoryEventStore

/-- The three ends of a call: the log does not replay, the event is refused, or it joins the log of its job. -/
theorem call_ends (store : InMemoryEventStore) (event : ArsEvent) :
    (∃ x, machine.run none (store.log event.jobId) = .error x ∧ store.call event = (.error x, store)) ∨
    (∃ current x, machine.run none (store.log event.jobId) = .ok current ∧ applyEvent current event = .error x ∧
      store.call event = (.error x, store)) ∨
    ∃ current next, machine.run none (store.log event.jobId) = .ok current ∧ applyEvent current event = .ok next ∧
      store.call event = (.ok (), ⟨store.logs.set event.jobId (store.log event.jobId ++ [event])⟩) := by
  rw [← current_eq]
  exact checkedWrite_cases _ _ _ store

/-- A call throws and leaves the store, or adds the event to the log of its job. -/
theorem call_cases (store : InMemoryEventStore) (event : ArsEvent) :
    (∃ x, store.call event = (.error x, store)) ∨
      store.call event = (.ok (), ⟨store.logs.set event.jobId (store.log event.jobId ++ [event])⟩) := by
  rcases store.call_ends event with ⟨x, -, hcall⟩ | ⟨_, x, -, -, hcall⟩ | ⟨_, _, -, -, hcall⟩
  · exact Or.inl ⟨x, hcall⟩
  · exact Or.inl ⟨x, hcall⟩
  · exact Or.inr hcall

/-- Setting the log of a job updates the logs, read as a function of the job id. -/
theorem log_set (store : InMemoryEventStore) (j : String) (es : List ArsEvent) :
    InMemoryEventStore.log ⟨store.logs.set j es⟩ = Function.update store.log j es := store.logs.getD_set j es []

/-- How a call ended, as a verdict. -/
def ended : Option ARSTransitionError → Except ARSTransitionError Unit
  | none => .ok ()
  | some x => .error x

/-- A call is an append of the library's log store. -/
theorem call_refines (store : InMemoryEventStore) (event : ArsEvent) :
    (store.call event).2.log = (machine.append ArsEvent.jobId store.log event).1 ∧
      (store.call event).1 = ended (machine.append ArsEvent.jobId store.log event).2 := by
  unfold Machine.append
  rcases store.call_ends event with ⟨x, hrun, hcall⟩ | ⟨current, x, hrun, happly, hcall⟩ | ⟨current, next, hrun, happly, hcall⟩
  · simp only [hrun, hcall]
    exact ⟨trivial, rfl⟩
  · simp only [hrun, hcall, machine_step, happly]
    exact ⟨trivial, rfl⟩
  · simp only [hrun, hcall, machine_step, happly]
    exact ⟨log_set store _ _, rfl⟩

/-- A call that throws leaves the store. -/
theorem call_error {store : InMemoryEventStore} {event : ArsEvent} {x : ARSTransitionError}
    (h : (store.call event).1 = .error x) : (store.call event).2 = store := by
  rcases store.call_cases event with ⟨y, hcall⟩ | hcall
  · rw [hcall]
  · rw [hcall] at h
    cases h

/-! ## A run of calls -/

/-- A run of calls is a run of appends of the library's log store. -/
theorem calls_refines (store : InMemoryEventStore) (events : List ArsEvent) :
    (store.calls events).2.log = (machine.appendAll ArsEvent.jobId store.log events).1 ∧
      (store.calls events).1 =
        (machine.appendAll ArsEvent.jobId store.log events).2.map (fun v => (v.1, ended v.2)) := by
  induction events generalizing store with
  | nil => exact ⟨rfl, rfl⟩
  | cons e es ih =>
    obtain ⟨hlog, hended⟩ := call_refines store e
    obtain ⟨hlog', hended'⟩ := ih (store.call e).2
    rw [hlog] at hlog' hended'
    refine ⟨hlog', ?_⟩
    simp only [calls, Machine.appendAll, List.map_cons, hended, hended']

/-- A run of calls in two parts. -/
theorem calls_append (store : InMemoryEventStore) (as bs : List ArsEvent) :
    store.calls (as ++ bs) =
      ((store.calls as).1 ++ ((store.calls as).2.calls bs).1, ((store.calls as).2.calls bs).2) := by
  induction as generalizing store with
  | nil => rfl
  | cons e es ih => simp only [List.cons_append, calls, ih]

/-- One more call. -/
theorem after_concat (events : List ArsEvent) (event : ArsEvent) :
    after (events ++ [event]) = ((after events).call event).2 := by
  unfold after
  rw [calls_append]
  rfl

/-! ## The fresh store -/

/-- One current job for each id, stepped with `applyEvent`: the job an accepted event leads to replaces the one before, a refused
event leaves it. -/
def reference (events : List ArsEvent) : String → Option Job := machine.settleAt ArsEvent.jobId (fun _ => none) events

/-- The reference job of an id is the fold of the events of that id, refused ones skipped. -/
theorem reference_apply (events : List ArsEvent) (j : String) :
    reference events j = machine.settle none (events.filter (fun e => e.jobId = j)) :=
  machine.settleAt_apply ArsEvent.jobId _ events j

/-- The reference store, by its steps: an event replaces the job of its id when `applyEvent` accepts it, and nothing else. -/
theorem reference_concat (events : List ArsEvent) (event : ArsEvent) :
    reference (events ++ [event]) =
      match applyEvent (reference events event.jobId) event with
      | .ok job => Function.update (reference events) event.jobId (some job)
      | .error _ => reference events := by
  have hconcat : reference (events ++ [event]) = machine.offerAt ArsEvent.jobId (reference events) event := by
    simp only [reference, Machine.settleAt, List.foldl_append, List.foldl_cons, List.foldl_nil]
  rw [hconcat, Machine.offerAt, Machine.offer, machine_step]
  cases applyEvent (reference events event.jobId) event with
  | ok job => rfl
  | error x => exact Function.update_eq_self _ _

/-- The logs of a run on a fresh store replay to the reference jobs. -/
theorem tracks_after (events : List ArsEvent) : machine.Tracks (after events).log (reference events) := by
  unfold after
  rw [(calls_refines new events).1]
  exact ((machine.tracks_nil).appendAll ArsEvent.jobId events).2.1

/-- After a run, the log of a job holds those of its events that were accepted, in order. -/
theorem log_after (events : List ArsEvent) (j : String) :
    (after events).log j = machine.accepted none (events.filter (fun e => e.jobId = j)) := by
  unfold after
  rw [(calls_refines new events).1]
  exact ((machine.tracks_nil).appendAll ArsEvent.jobId events).2.2 j

/-- How the calls ended is what the reference store says of the events. -/
theorem outcomes_eq (events : List ArsEvent) :
    outcomes events = (machine.verdictsAt ArsEvent.jobId (fun _ => none) events).map (fun v => (v.1, ended v.2)) := by
  unfold outcomes
  rw [(calls_refines new events).2]
  exact congrArg _ ((machine.tracks_nil).appendAll ArsEvent.jobId events).1

/-- The outcomes of a job's calls are the verdicts on its own events. -/
theorem outcomes_filter (events : List ArsEvent) (j : String) :
    (outcomes events).filter (fun o => o.1.jobId = j) =
      (machine.verdicts none (events.filter (fun e => e.jobId = j))).map (fun v => (v.1, ended v.2)) := by
  rw [outcomes_eq, List.filter_map]
  exact congrArg _ (machine.verdictsAt_filter ArsEvent.jobId _ events j)

/-- `job` is the fold of the log. -/
theorem job_eq (store : InMemoryEventStore) (j : String) : store.job j = machine.run none (store.log j) := by
  rw [← current_eq]
  unfold job log
  cases store.logs.get j <;> rfl

/-- `job` returns the reference job. -/
theorem job_after (events : List ArsEvent) (j : String) : (after events).job j = .ok (reference events j) := by
  rw [job_eq]
  exact tracks_after events j

/-- A call that succeeds: the job it leads to, and the log it extends. -/
theorem call_ok {events : List ArsEvent} {event : ArsEvent} (h : ((after events).call event).1 = .ok ()) :
    ∃ job, applyEvent (reference events event.jobId) event = .ok job ∧
      reference (events ++ [event]) = Function.update (reference events) event.jobId (some job) ∧
      (after (events ++ [event])).log =
        Function.update (after events).log event.jobId ((after events).log event.jobId ++ [event]) := by
  rcases (after events).call_ends event with ⟨x, -, hcall⟩ | ⟨_, x, -, -, hcall⟩ | ⟨current, job, hrun, happly, hcall⟩
  · rw [hcall] at h
    cases h
  · rw [hcall] at h
    cases h
  · have htracked : current = reference events event.jobId := Except.ok.inj (hrun.symm.trans (tracks_after events event.jobId))
    subst htracked
    refine ⟨job, happly, ?_, ?_⟩
    · rw [reference_concat, happly]
    · rw [after_concat, hcall]
      exact log_set _ _ _

/-! ## The keys -/

/-- Every key has a log, and every log is of a key. -/
def Kept (store : InMemoryEventStore) : Prop := ∀ j, j ∈ store.jobIds ↔ store.log j ≠ []

/-- A call keeps the keys to the ids with a log. -/
theorem kept_call {store : InMemoryEventStore} (h : store.Kept) (event : ArsEvent) : (store.call event).2.Kept := by
  rcases store.call_cases event with ⟨x, hcall⟩ | hcall
  · rw [hcall]
    exact h
  · rw [hcall]
    intro j
    show j ∈ (store.logs.set _ _).keys ↔ InMemoryEventStore.log _ j ≠ []
    rw [OrderedMap.mem_keys_set, log_set]
    by_cases hj : j = event.jobId
    · subst hj
      simp
    · rw [Function.update_of_ne hj]
      simpa [hj, jobIds] using h j

/-- The keys of every reachable store are the ids with a log. -/
theorem kept_after (events : List ArsEvent) : (after events).Kept := by
  induction events using List.reverseRecOn with
  | nil =>
    intro j
    simp [after, calls, new, jobIds, log, OrderedMap.keys, OrderedMap.empty, OrderedMap.get, OrderedMap.find]
  | append_singleton events event ih =>
    rw [after_concat]
    exact kept_call ih event

end InMemoryEventStore

end ArsSolana.TypeScript
