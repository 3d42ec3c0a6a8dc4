import ArsSolana.Theorems.Ingestion
import ArsSolana.Theorems.Order
import ArsSolana.Theorems.Words

/-!
# The settlement layer and the indexer write into one store

The settlement layer opens and underwrites jobs, the indexer adds what happened on chain. However their calls are interleaved, a log
is the part of the one followed by the part of the other; so two interleavings that both go through leave the same store.
-/

namespace ArsSolana.TypeScript

open EventSourcing InMemoryEventStore Ranked

/-- The settlement layer writes the event: it is of no kind that payloads are mapped to. -/
def settles (e : ArsEvent) : Bool := e.letter ∉ chainLetters

/-- The settlement layer writes the kinds of events before the first draw. -/
theorem settles_iff {e : ArsEvent} : settles e = true ↔ e.letter.rank < 3 := by
  rw [settles, decide_eq_true_eq]
  cases e.letter with
  | decided passed => cases passed <;> decide
  | _ => decide

/-! ## Logs in the order of the lifecycle -/

/-- The events of a log stand in the order of their ranks. -/
theorem ordered_log (events : List ArsEvent) (j : String) :
    Ordered (fun e => e.letter.rank) 3 ((after events).log j) := by
  cases hjob : reference events j with
  | none =>
    rw [log_eq_nil_iff.mpr hjob]
    exact List.Pairwise.nil
  | some job =>
    have hordered := (ordered_of_run (run_iff_shape.mpr (shape_of_reference hjob))).1
    unfold Ordered at hordered ⊢
    rwa [List.pairwise_map] at hordered

/-- A log is what the settlement layer wrote, and then what the indexer did. -/
theorem log_parts (events : List ArsEvent) (j : String) :
    ((after events).log j).filter settles ++ ((after events).log j).filter (fun e => !settles e) = (after events).log j := by
  refine filter_append_filter_not ?_
  refine List.Pairwise.imp ?_ (ordered_log events j).le
  intro e e' hle
  rw [settles_iff, settles_iff]
  omega

/-- Two ways to interleave the calls of the settlement layer with those of the indexer, in which each of the two has the same of its
calls go through, leave the same logs and the same jobs: which of the two called first never matters. -/
theorem interleavings_agree (events events' : List ArsEvent)
    (hsettles : (succeeded events).filter settles = (succeeded events').filter settles)
    (hchain : (succeeded events).filter (fun e => !settles e) = (succeeded events').filter (fun e => !settles e)) (j : String) :
    (after events).log j = (after events').log j ∧ (after events).job j = (after events').job j := by
  have hpart : ∀ (p : ArsEvent → Bool) (events : List ArsEvent),
      ((after events).log j).filter p = ((succeeded events).filter p).filter (fun e => e.jobId = j) := by
    intro p events
    rw [← succeeded_filter, List.filter_comm]
  have hlog : (after events).log j = (after events').log j := by
    calc (after events).log j
        = ((after events).log j).filter settles ++ ((after events).log j).filter (fun e => !settles e) :=
          (log_parts events j).symm
      _ = ((after events').log j).filter settles ++ ((after events').log j).filter (fun e => !settles e) := by
          rw [hpart, hpart, hpart, hpart, hsettles, hchain]
      _ = (after events').log j := log_parts events' j
  exact ⟨hlog, by rw [job_eq, job_eq, hlog]⟩

/-- A job is released before or after another one is opened and underwritten; the release that comes too early is refused. -/
theorem interleavings_agree_two :
    let opened (j : String) : ArsEvent := .jobOpened ⟨⟨j, 1⟩, "agent", "requestor", 5⟩
    let started (j : String) : ArsEvent := .underwritingStarted ⟨⟨j, 2⟩⟩
    let decided (j : String) : ArsEvent := .underwritingDecided ⟨⟨j, 3⟩, true, none⟩
    let released : ArsEvent := .principalReleased ⟨⟨"a", 4⟩, 3⟩
    (after [opened "a", started "a", decided "a", released, opened "b", started "b"]).log "a" =
      (after [opened "a", released, started "a", decided "a", opened "b", started "b", released]).log "a" := by
  intro opened started decided released
  exact (interleavings_agree [opened "a", started "a", decided "a", released, opened "b", started "b"]
    [opened "a", released, started "a", decided "a", opened "b", started "b", released] (by decide) (by decide) "a").1

end ArsSolana.TypeScript
