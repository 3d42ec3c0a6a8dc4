import ArsSolana.Lemmas.PythonTrack
import ArsSolana.Lemmas.TypeScriptTrack

/-!
# The two state machines are one function

The module docstring of `state.py` promises that both sides replay one log to one job. Both refine the track, so they agree
with each other wherever the track sees the same log.
-/

namespace ArsSolana

open EventSourcing EventSourcing.Machine

/-- An event of `events.py`, field by field as an event of `events.ts`. -/
def Python.ArsEvent.toTypeScript : Python.ArsEvent → TypeScript.ArsEvent
  | jobOpened e => .jobOpened ⟨⟨e.jobId, e.atTime⟩, e.agent, e.requestor, e.exposureAtomic⟩
  | underwritingStarted e => .underwritingStarted ⟨⟨e.jobId, e.atTime⟩⟩
  | underwritingDecided e => .underwritingDecided ⟨⟨e.jobId, e.atTime⟩, e.passed, e.failureCode⟩
  | principalReleased e => .principalReleased ⟨⟨e.jobId, e.atTime⟩, e.amountAtomic⟩
  | evidenceSubmitted e => .evidenceSubmitted ⟨⟨e.jobId, e.atTime⟩, e.actionHash, e.outcome⟩
  | disputed e => .disputed ⟨⟨e.jobId, e.atTime⟩, e.claim⟩
  | closed e => .closed ⟨⟨e.jobId, e.atTime⟩, e.resolution⟩

/-- A job of `state.py`, field by field as a job of `state.ts`. -/
def Python.Job.toTypeScript (j : Python.Job) : TypeScript.Job :=
  ⟨j.jobId, j.agent, j.requestor, j.exposureAtomic, j.state, j.releasedAtomic, j.lastEventAt⟩

/-- The track sees the same of an event and of its translation. -/
theorem entry_toTypeScript (e : Python.ArsEvent) : e.toTypeScript.entry = e.entry := by
  cases e <;> rfl

theorem map_account_toTypeScript (job : Option Python.Job) :
    (job.map Python.Job.toTypeScript).map TypeScript.Job.account = job.map Python.Job.account := by
  cases job <;> rfl

/-- The track sees the same of a log and of its translation. -/
theorem map_entry_toTypeScript (log : List Python.ArsEvent) :
    (log.map Python.ArsEvent.toTypeScript).map TypeScript.ArsEvent.entry = log.map Python.ArsEvent.entry := by
  rw [List.map_map]
  exact List.map_congr_left (fun e _ => entry_toTypeScript e)

/-- Jobs the track cannot tell apart are translations of each other. -/
theorem eq_toTypeScript_of_account {j : Python.Job} {j' : TypeScript.Job} {a : Account} (h : a = j.account)
    (h' : a = j'.account) : j' = j.toTypeScript :=
  TypeScript.Job.account_injective (h'.symm.trans h)

/-- The translation back. -/
def TypeScript.ArsEvent.toPython : TypeScript.ArsEvent → Python.ArsEvent
  | jobOpened e => .jobOpened ⟨e.jobId, e.atTime, e.agent, e.requestor, e.exposureAtomic⟩
  | underwritingStarted e => .underwritingStarted ⟨e.jobId, e.atTime⟩
  | underwritingDecided e => .underwritingDecided ⟨e.jobId, e.atTime, e.passed, e.failureCode⟩
  | principalReleased e => .principalReleased ⟨e.jobId, e.atTime, e.amountAtomic⟩
  | evidenceSubmitted e => .evidenceSubmitted ⟨e.jobId, e.atTime, e.actionHash, e.outcome⟩
  | disputed e => .disputed ⟨e.jobId, e.atTime, e.claim⟩
  | closed e => .closed ⟨e.jobId, e.atTime, e.resolution⟩

/-- Every event of `events.ts` is the translation of one event of `events.py`, so a statement about all translated logs is a
statement about all logs of either side. -/
theorem toTypeScript_bijective : Function.Bijective Python.ArsEvent.toTypeScript := by
  refine Function.bijective_iff_has_inverse.mpr ⟨TypeScript.ArsEvent.toPython, ?_, ?_⟩
  · intro e
    cases e <;> rfl
  · intro e
    cases e <;> rfl

/-- One event: on every job and on no job both sides move to corresponding jobs, or both refuse for the same reason. -/
theorem applyEvent_agree (job : Option Python.Job) (e : Python.ArsEvent) :
    (∃ j, Python.applyEvent job e = .ok j ∧
        TypeScript.applyEvent (job.map Python.Job.toTypeScript) e.toTypeScript = .ok j.toTypeScript) ∨
      ∃ x y, Python.applyEvent job e = .error x ∧
        TypeScript.applyEvent (job.map Python.Job.toTypeScript) e.toTypeScript = .error y ∧ x.reason = y.reason := by
  have hpy := Python.applyEvent_refines job e
  have hts := TypeScript.applyEvent_refines (job.map Python.Job.toTypeScript) e.toTypeScript
  rw [entry_toTypeScript, map_account_toTypeScript] at hts
  rcases hpy.common hts with ⟨j, j', a, hj, hj', -, ha, ha'⟩ | ⟨x, y, r, hx, hy, -, hr, hr'⟩
  · exact Or.inl ⟨j, hj, eq_toTypeScript_of_account ha ha' ▸ hj'⟩
  · exact Or.inr ⟨x, y, hx, hy, hr.trans hr'.symm⟩

/-- A log both sides refuse at an event, they refuse at the same event. -/
theorem failsAt_agree {log : List Python.ArsEvent} {k k' : Nat} {x : Python.ARSTransitionError}
    {y : TypeScript.ARSTransitionError} (h : Python.machine.FailsAt log k x)
    (h' : TypeScript.machine.FailsAt (log.map Python.ArsEvent.toTypeScript) k' y) : k = k' := by
  obtain ⟨r, hr, -⟩ := Python.refinement.failsAt h
  obtain ⟨r', hr', -⟩ := TypeScript.refinement.failsAt h'
  have hmap : (log.map Python.ArsEvent.toTypeScript).map TypeScript.refinement.event = log.map Python.refinement.event :=
    map_entry_toTypeScript log
  rw [hmap] at hr'
  exact (hr.unique hr').1

/-- The Python and the TypeScript state machine are the same function. Step by step, on every job and on no job; and on every
log, both return corresponding jobs, or both refuse it for the same reason, at the same event unless the log is empty. -/
theorem state_machines_agree :
    Function.Bijective Python.ArsEvent.toTypeScript ∧
    (∀ (job : Option Python.Job) (e : Python.ArsEvent),
      (∃ j, Python.applyEvent job e = .ok j ∧
          TypeScript.applyEvent (job.map Python.Job.toTypeScript) e.toTypeScript = .ok j.toTypeScript) ∨
        ∃ x y, Python.applyEvent job e = .error x ∧
          TypeScript.applyEvent (job.map Python.Job.toTypeScript) e.toTypeScript = .error y ∧ x.reason = y.reason) ∧
    ∀ log : List Python.ArsEvent,
      (∃ j, Python.replay log = .ok j ∧
          TypeScript.replay (log.map Python.ArsEvent.toTypeScript) = .ok j.toTypeScript) ∨
        ∃ x y, Python.replay log = .error x ∧
          TypeScript.replay (log.map Python.ArsEvent.toTypeScript) = .error y ∧ x.reason = y.reason ∧
          ((log = [] ∧ x.reason = .emptyLog) ∨ ∃ k, Python.machine.FailsAt log k x ∧
            TypeScript.machine.FailsAt (log.map Python.ArsEvent.toTypeScript) k y) := by
  refine ⟨toTypeScript_bijective, applyEvent_agree, fun log => ?_⟩
  have hpy := Python.replay_refines log
  have hts := TypeScript.replay_refines (log.map Python.ArsEvent.toTypeScript)
  rw [map_entry_toTypeScript] at hts
  rcases hpy.common hts with ⟨j, j', a, hj, hj', -, ha, ha'⟩ | ⟨x, y, r, hx, hy, -, hr, hr'⟩
  · exact Or.inl ⟨j, hj, eq_toTypeScript_of_account ha ha' ▸ hj'⟩
  · refine Or.inr ⟨x, y, hx, hy, hr.trans hr'.symm, ?_⟩
    rw [Python.replay_eq] at hx
    rw [TypeScript.replay_eq] at hy
    rcases Python.machine.replay_error_iff.mp hx with ⟨hl, rfl⟩ | ⟨k, hk⟩
    · exact Or.inl ⟨hl, rfl⟩
    · rcases TypeScript.machine.replay_error_iff.mp hy with ⟨hl, -⟩ | ⟨k', hk'⟩
      · obtain rfl := List.map_eq_nil_iff.mp hl
        obtain ⟨_, _, hnone, -⟩ := hk
        cases hnone
      · obtain rfl := failsAt_agree hk hk'
        exact Or.inr ⟨k, hk, hk'⟩

end ArsSolana
