import ArsSolana.Lemmas.PythonTrack
import ArsSolana.Lemmas.TypeScriptTrack

/-!
# The language of accepted logs

Which logs replay, and what their jobs say. The lifecycle answers it for words of letters, the track for logs of entries; here
the answer is carried down to both languages.
-/

namespace ArsSolana

open EventSourcing EventSourcing.Machine

/-- `replay` follows the lifecycle: what it accepts, what the last event decides, and what no accepted log contains. -/
structure KeepsLifecycle {ε J χ : Type} (replay : List ε → Except χ J) (jobId : ε → String) (letter : ε → Letter)
    (state : J → PrincipalState) : Prop where
  /-- A log replays to a job exactly when its events are of one job and begin a complete lifecycle. -/
  accepts : ∀ log, (∃ job, replay log = .ok job) ↔
    log ≠ [] ∧ (∃ id, ∀ e ∈ log, jobId e = id) ∧ ∃ full, Complete full ∧ log.map letter <+: full
  /-- Every other log ends in a transition error. -/
  refuses : ∀ log, (¬∃ job, replay log = .ok job) → ∃ x, replay log = .error x
  /-- The last event decides the state. -/
  last : ∀ log e job, replay (log ++ [e]) = .ok job → state job = (letter e).state
  /-- Principal is released only after underwriting passed. -/
  release : ∀ log e rest job, replay (log ++ e :: rest) = .ok job → letter e = .released →
    ∃ u ∈ log, letter u = .decided true
  /-- Evidence is never skipped. -/
  evidence : ∀ log e rest job, replay (log ++ e :: rest) = .ok job → letter e = .disputed ∨ letter e = .closed →
    ∃ u ∈ log, letter u = .evidence
  /-- Nothing follows a rejected or closed job. -/
  ends : ∀ log rest job job', replay log = .ok job → state job = .rejected ∨ state job = .closed →
    replay (log ++ rest) = .ok job' → rest = []

/-! ## The track -/

/-- The word of an accepted log. -/
theorem word_of_replay {log : List Entry} {a : Account} (h : track.replay log = .ok a) :
    lifecycle.run none (log.map Entry.letter) = .ok (some a.state) :=
  (derives_of_run (track.replay_ok_iff.mp h)).word

/-- The state is that of the last letter. -/
theorem track_last {log : List Entry} {e : Entry} {a : Account} (h : track.replay (log ++ [e]) = .ok a) :
    a.state = e.letter.state := by
  have hw := word_of_replay h
  rw [List.map_append, List.map_singleton] at hw
  exact run_last hw

/-- An accepted log, split at one of its entries, as a split word. -/
theorem word_split {log rest : List Entry} {e : Entry} {a : Account} (h : track.replay (log ++ e :: rest) = .ok a) :
    lifecycle.run none (log.map Entry.letter ++ e.letter :: rest.map Entry.letter) = .ok (some a.state) := by
  have hw := word_of_replay h
  rwa [List.map_append, List.map_cons] at hw

/-- Nothing follows an account in a terminal state. -/
theorem track_ends {log rest : List Entry} {a b : Account} (h : track.replay log = .ok a)
    (ha : a.state = .rejected ∨ a.state = .closed) (h' : track.replay (log ++ rest) = .ok b) : rest = [] := by
  cases rest with
  | nil => rfl
  | cons e rest =>
    rw [track.replay_ok_iff] at h h'
    rw [track.run_append_ok h] at h'
    cases hs : track.step (some a) e with
    | error x => rw [track.run_cons_error hs] at h'; cases h'
    | ok c => exact absurd ha (allowedIn_not_terminal (track_some_iff.mp hs).2.1)

/-- A state machine that refines the track follows the lifecycle. -/
theorem keepsLifecycle_of_refines {ε J χ : Type} {replay : List ε → Except χ J} {entry : ε → Entry} {account : J → Account}
    {reason : χ → Reason} (href : RefinesTrack replay entry account reason) :
    KeepsLifecycle replay (fun e => (entry e).jobId) (fun e => (entry e).letter) (fun j => (account j).state) := by
  have hmem : ∀ {log : List ε} {l : Letter}, l ∈ (log.map entry).map Entry.letter → ∃ u ∈ log, (entry u).letter = l := by
    intro log l h
    simpa using h
  refine ⟨?accepts, ?refuses, ?last, ?release, ?evidence, ?ends⟩
  case accepts =>
    intro log
    rw [(href log).isOk_iff, track_accepts_iff]
    simp only [ne_eq, List.map_eq_nil_iff, List.mem_map, forall_exists_index, and_imp, forall_apply_eq_imp_iff₂,
      List.map_map, Function.comp_def]
  case refuses =>
    intro log h
    cases hr : replay log with
    | error x => exact ⟨x, rfl⟩
    | ok job => exact absurd ⟨job, hr⟩ h
  case last =>
    intro log e job h
    have ht := href.ok h
    rw [List.map_append, List.map_singleton] at ht
    exact track_last ht
  case release =>
    intro log e rest job h he
    have ht := href.ok h
    rw [List.map_append, List.map_cons] at ht
    have hw := word_split ht
    rw [he] at hw
    exact hmem (released_after_decided hw)
  case evidence =>
    intro log e rest job h he
    have ht := href.ok h
    rw [List.map_append, List.map_cons] at ht
    exact hmem (closing_after_evidence he (word_split ht))
  case ends =>
    intro log rest job job' h hs h'
    have ht' := href.ok h'
    rw [List.map_append] at ht'
    exact List.map_eq_nil_iff.mp (track_ends (href.ok h) hs ht')

/-- Both implementations follow the lifecycle: they accept the non-empty prefixes of complete lifecycles of one job, and
refuse every other log. -/
theorem replay_keeps_lifecycle :
    KeepsLifecycle Python.replay Python.ArsEvent.jobId Python.ArsEvent.letter Python.Job.state ∧
      KeepsLifecycle TypeScript.replay TypeScript.ArsEvent.jobId TypeScript.ArsEvent.letter TypeScript.Job.state :=
  ⟨keepsLifecycle_of_refines Python.replay_refines, keepsLifecycle_of_refines TypeScript.replay_refines⟩

end ArsSolana
