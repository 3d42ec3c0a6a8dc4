import ArsSolana.Theorems.Store

/-!
# The words of stored logs

Every log of a reachable store spells a word of the lifecycle, and the word says which events the store takes next.
-/

namespace ArsSolana

open EventSourcing

/-- An event whose kind the word already has is allowed only as a further release. -/
theorem allowed_again_iff {w : List Letter} {s : PrincipalState} {l : Letter} (h : Shape s w) (hl : l ∈ w) :
    some s ∈ l.allowedIn ↔ l = .released ∧ s = .executing := by
  constructor
  · intro hin
    have hallowed := Letter.mem_allowedIn.mp hin
    cases l with
    | opened => cases hallowed
    | released =>
      rcases hallowed with hs | hs
      · cases hs
        have hw : w = underwritten := h
        simp [hw, underwritten] at hl
      · exact ⟨rfl, Option.some.inj hs⟩
    | evidence =>
      cases hallowed
      obtain ⟨n, rfl⟩ := h
      simp [drawn, underwritten] at hl
    | disputed =>
      cases hallowed
      obtain ⟨n, rfl⟩ := h
      simp [drawn, underwritten] at hl
    | closed =>
      rcases hallowed with hs | hs
      · cases hs
        obtain ⟨n, rfl⟩ := h
        simp [drawn, underwritten] at hl
      · cases hs
        obtain ⟨n, rfl⟩ := h
        simp [drawn, underwritten] at hl
    | _ =>
      cases hallowed
      simp [Shape] at h
      simp [h] at hl
  · rintro ⟨rfl, rfl⟩
    exact Letter.mem_allowedIn.mpr (Or.inr rfl)

namespace TypeScript

open InMemoryEventStore

/-- A job of the reference store is what its log replays to. -/
theorem replay_log {events : List ArsEvent} {j : String} {job : Job} (h : reference events j = some job) :
    replay ((after events).log j) = .ok job := by
  rw [replay_eq, machine.replay_ok_iff, tracks_after events j, h]

/-- The log of a job spells a word that leads to the job's state. -/
theorem shape_of_reference {events : List ArsEvent} {j : String} {job : Job} (h : reference events j = some job) :
    Shape job.state (((after events).log j).map ArsEvent.letter) := by
  have hword := (replay_refines.derives (replay_log h)).word
  rw [List.map_map] at hword
  exact run_iff_shape.mp hword

/-- A log is empty exactly when there is no job. -/
theorem log_eq_nil_iff {events : List ArsEvent} {j : String} : (after events).log j = [] ↔ reference events j = none := by
  rw [log_after, reference_apply, machine.settle_none_iff]

/-- A log has the events of its job that the store has taken. -/
theorem mem_log_iff {events : List ArsEvent} {j : String} {e : ArsEvent} :
    e ∈ (after events).log j ↔ e ∈ succeeded events ∧ e.jobId = j := by
  rw [← succeeded_filter, List.mem_filter, decide_eq_true_eq]

/-- A job that is there has an event in its log. -/
theorem exists_mem_log {events : List ArsEvent} {j : String} {job : Job} (h : reference events j = some job) :
    ∃ e, e ∈ (after events).log j := by
  refine List.exists_mem_of_ne_nil _ ?_
  rw [ne_eq, log_eq_nil_iff, h]
  exact nofun

/-- A job is kept under its id. -/
theorem jobId_of_reference {events : List ArsEvent} {j : String} {job : Job} (h : reference events j = some job) :
    job.jobId = j := by
  obtain ⟨e, he⟩ := exists_mem_log h
  have hid : e.jobId = job.jobId := (replay_refines.derives (replay_log h)).ids e.entry (List.mem_map_of_mem he)
  rw [← hid, (mem_log_iff.mp he).2]

theorem outcomes_concat (events : List ArsEvent) (e : ArsEvent) :
    outcomes (events ++ [e]) = outcomes events ++ [(e, ((after events).call e).1)] := by
  unfold outcomes after
  rw [calls_append]
  rfl

/-- The next call adds its event exactly when it goes through. -/
theorem succeeded_concat (events : List ArsEvent) (e : ArsEvent) :
    succeeded (events ++ [e]) = succeeded events ++ if (((after events).call e).1).isOk then [e] else [] := by
  unfold succeeded
  rw [outcomes_concat, List.filter_append, List.map_append]
  cases h : (((after events).call e).1).isOk <;> simp [h]

end TypeScript

end ArsSolana
