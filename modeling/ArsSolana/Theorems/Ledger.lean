import Mathlib.Algebra.BigOperators.Group.List.Basic
import ArsSolana.Theorems.Words

/-!
# The books of the store

The logs of the store are the events it has taken, taken apart by job; so the principal its jobs have drawn is what the releases it
has taken add up to.
-/

namespace ArsSolana.TypeScript

open EventSourcing InMemoryEventStore

/-- The principal released to all jobs of the store. -/
def InMemoryEventStore.principal (store : InMemoryEventStore) : Int :=
  (store.jobIds.map fun j =>
    match store.job j with
    | .ok (some job) => job.releasedAtomic
    | _ => 0).sum

/-- The logs have the events the store has taken, each in one log and as often as it was taken. -/
theorem perm_logs (events : List ArsEvent) : ((after events).jobIds.flatMap (after events).log).Perm (succeeded events) := by
  have hcovered : ∀ e ∈ succeeded events, e.jobId ∈ (after events).jobIds := by
    intro e he
    rw [kept_after events]
    exact List.ne_nil_of_mem (mem_log_iff.mpr ⟨he, rfl⟩)
  have hperm := perm_flatMap_filter ArsEvent.jobId (after events).logs.keys_nodup hcovered
  simp only [succeeded_filter] at hperm
  exact hperm

/-- What a job has drawn is what the releases in its log add up to. -/
theorem released_of_log {events : List ArsEvent} {j : String} {job : Job} (h : reference events j = some job) :
    job.releasedAtomic = (((after events).log j).map (fun e => e.move.amount)).sum := by
  have hreleased := (replay_refines.derives (replay_log h)).released
  rwa [List.map_map] at hreleased

/-- The books balance. Over any run of calls, the principal that all jobs have drawn is the sum of the releases the store has taken,
the logs are those events and no others, and the next call changes the sum by the amount it releases if it goes through, else not
at all. -/
theorem books_balance (events : List ArsEvent) :
    ((after events).jobIds.flatMap (after events).log).Perm (succeeded events) ∧
      (after events).principal = ((succeeded events).map (fun e => e.move.amount)).sum ∧
      ∀ e, (after (events ++ [e])).principal =
        (after events).principal + if ((after events).call e).1 = .ok () then e.move.amount else 0 := by
  have htotal : ∀ events, (after events).principal = ((succeeded events).map (fun e => e.move.amount)).sum := by
    intro events
    rw [← ((perm_logs events).map _).sum_eq, List.map_flatMap, List.flatMap_def, List.sum_flatten, List.map_map]
    refine congrArg List.sum (List.map_congr_left fun j _ => ?_)
    rw [job_after, Function.comp_apply]
    cases hjob : reference events j with
    | none => rw [log_eq_nil_iff.mpr hjob]; rfl
    | some job => exact released_of_log hjob
  refine ⟨perm_logs events, htotal events, fun e => ?_⟩
  rw [htotal, htotal, succeeded_concat, List.map_append, List.sum_append]
  cases ((after events).call e).1 with
  | ok _ => simp [Except.isOk, Except.toBool]
  | error x => simp [Except.isOk, Except.toBool]

end ArsSolana.TypeScript
