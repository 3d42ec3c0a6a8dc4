import ArsSolana.Theorems.Words

/-!
# How a stored job goes on

From every state but one a job can be closed, by as many further events of its own as the lifecycle asks for and by no fewer; a job
that was rejected or closed stays as it is.
-/

namespace ArsSolana

open EventSourcing

/-! ## The way to a closed job -/

/-- The events that close a job soonest; none close a rejected one. -/
def PrincipalState.closingWord : PrincipalState → Option (List Letter)
  | awaitUnderwriting => some [.started, .decided true, .released, .evidence, .closed]
  | underwriting => some [.decided true, .released, .evidence, .closed]
  | releasable => some [.released, .evidence, .closed]
  | executing => some [.evidence, .closed]
  | evidenceSubmitted | disputed => some [.closed]
  | closed => some []
  | rejected => none

/-- Every job that was not rejected has them. -/
theorem closingWord_exists {s : PrincipalState} (h : s ≠ .rejected) : ∃ w, s.closingWord = some w := by
  cases s <;> first | exact ⟨_, rfl⟩ | exact absurd rfl h

/-- They close it. -/
theorem run_closingWord {s : PrincipalState} {w : List Letter} (h : s.closingWord = some w) :
    lifecycle.run (some s) w = .ok (some .closed) := by
  cases s <;> cases h <;> rfl

/-- How many events a job is from being closed, at least; a rejected job is put further away than any other. -/
def PrincipalState.distance (s : PrincipalState) : Nat := s.closingWord.elim 6 List.length

theorem distance_of_word {s : PrincipalState} {w : List Letter} (h : s.closingWord = some w) : s.distance = w.length := by
  rw [PrincipalState.distance, h, Option.elim_some]

/-- No event takes a job more than one step nearer to being closed. -/
theorem distance_step {s t : PrincipalState} {l : Letter} (h : lifecycle.step (some s) l = .ok t) :
    s.distance ≤ t.distance + 1 := by
  obtain ⟨hin, rfl⟩ := lifecycle_step_iff.mp h
  have hallowed := Letter.mem_allowedIn.mp hin
  cases l with
  | opened => cases hallowed
  | decided passed =>
    cases hallowed
    cases passed <;> decide
  | released => rcases hallowed with hs | hs <;> cases hs <;> decide
  | closed => rcases hallowed with hs | hs <;> cases hs <;> decide
  | _ =>
    cases hallowed
    decide

/-- A run of events takes a job no nearer to being closed than it is long. -/
theorem distance_le {s t : PrincipalState} {w : List Letter} (h : lifecycle.run (some s) w = .ok (some t)) :
    s.distance ≤ t.distance + w.length := by
  refine lifecycle.run_measure (f := fun o => o.elim 0 PrincipalState.distance) ?_ h
  intro s l t hstep
  cases s with
  | none => exact Nat.zero_le _
  | some s => exact distance_step hstep

/-- A rejected or closed job takes no event. -/
theorem run_terminal {s : PrincipalState} (hs : s = .rejected ∨ s = .closed) {w : List Letter} {t : Option PrincipalState}
    (h : lifecycle.run (some s) w = .ok t) : w = [] := by
  cases w with
  | nil => rfl
  | cons l w =>
    have hno : ¬some s ∈ l.allowedIn := fun hin => allowedIn_not_terminal hin hs
    simp [Machine.run, lifecycle, hno] at h

namespace TypeScript

open InMemoryEventStore

/-! ## A run from a job -/

/-- What a job takes of its own events is decided by their letters. -/
theorem run_iff_letters {job : Job} {es : List ArsEvent} (hid : ∀ e ∈ es, e.jobId = job.jobId) {s : PrincipalState} :
    (∃ job', machine.run (some job) es = .ok (some job') ∧ job'.state = s) ↔
      lifecycle.run (some job.state) (es.map ArsEvent.letter) = .ok (some s) := by
  induction es generalizing job with
  | nil => simp [Machine.run]
  | cons e es ih =>
    rw [List.map_cons]
    by_cases hin : some job.state ∈ e.letter.allowedIn
    · have hjob : machine.step (some job) e = .ok (job.after e) :=
        applyEvent_some_iff.mpr ⟨(hid e List.mem_cons_self).symm, hin, rfl⟩
      have hstate : lifecycle.step (some job.state) e.letter = .ok (job.after e).state := lifecycle_step_iff.mpr ⟨hin, rfl⟩
      rw [machine.run_cons_ok hjob, lifecycle.run_cons_ok hstate]
      exact ih fun e' he' => hid e' (List.mem_cons_of_mem e he')
    · have hrefused : lifecycle.step (some job.state) e.letter = .error () := if_neg hin
      rw [lifecycle.run_cons_error hrefused]
      constructor
      · rintro ⟨job', hrun, -⟩
        cases hstep : machine.step (some job) e with
        | error x =>
          rw [machine.run_cons_error hstep] at hrun
          cases hrun
        | ok next => exact absurd (applyEvent_some_iff.mp hstep).2.1 hin
      · intro h
        cases h

/-! ## A run of calls on a reachable store -/

/-- More calls after a run of calls. -/
theorem calls_after (events more : List ArsEvent) : after (events ++ more) = ((after events).calls more).2 := by
  unfold after
  rw [calls_append]

/-- What more events make of the reference job. -/
theorem reference_append (events more : List ArsEvent) (j : String) :
    reference (events ++ more) j = machine.settle (reference events j) (more.filter (fun e => e.jobId = j)) := by
  rw [reference_apply, reference_apply, List.filter_append, Machine.settle, List.foldl_append]
  rfl

/-- The log of a job grows by those of its own events that it takes. -/
theorem log_append (events more : List ArsEvent) (j : String) :
    (after (events ++ more)).log j =
      (after events).log j ++ machine.accepted (reference events j) (more.filter (fun e => e.jobId = j)) := by
  rw [calls_after, (calls_refines (after events) more).1]
  exact ((tracks_after events).appendAll ArsEvent.jobId more).2.2 j

/-- What a job takes in a run of calls is a run of the lifecycle from its state. -/
theorem run_of_more (more : List ArsEvent) {events : List ArsEvent} {j : String} {job : Job} (h : reference events j = some job) :
    ∃ job', reference (events ++ more) j = some job' ∧ lifecycle.run (some job.state)
      ((machine.accepted (some job) (more.filter (fun e => e.jobId = j))).map ArsEvent.letter) = .ok (some job'.state) := by
  have hrun := machine.run_accepted (some job) (more.filter (fun e => e.jobId = j))
  rw [← h, ← reference_append, h] at hrun
  have hown : ∀ e ∈ machine.accepted (some job) (more.filter (fun e => e.jobId = j)), e.jobId = job.jobId := by
    intro e he
    have hmem := (machine.accepted_sublist _ _).subset he
    rw [jobId_of_reference h]
    exact of_decide_eq_true (List.mem_filter.mp hmem).2
  cases hjob : reference (events ++ more) j with
  | some job' =>
    rw [hjob] at hrun
    exact ⟨job', rfl, (run_iff_letters hown).mp ⟨job', hrun, rfl⟩⟩
  | none =>
    -- a job that is there stays there: its log only grows
    exfalso
    have hnil := log_eq_nil_iff.mpr hjob
    rw [log_append, List.append_eq_nil_iff] at hnil
    rw [log_eq_nil_iff.mp hnil.1] at h
    cases h

/-- Events of one job that lead on from its state are all taken, and nothing else changes. -/
theorem taken_of_run {events more : List ArsEvent} {j : String} {job : Job} (h : reference events j = some job)
    (hid : ∀ e ∈ more, e.jobId = j) {s : PrincipalState}
    (hrun : lifecycle.run (some job.state) (more.map ArsEvent.letter) = .ok (some s)) :
    (∀ o ∈ ((after events).calls more).1, o.2 = .ok ()) ∧
      (∃ job', reference (events ++ more) j = some job' ∧ job'.state = s) ∧
      (after (events ++ more)).log = Function.update (after events).log j ((after events).log j ++ more) := by
  obtain ⟨job', hmachine, hstate⟩ := (run_iff_letters (by rwa [jobId_of_reference h])).mpr hrun
  have hown : more.filter (fun e => e.jobId = j) = more := List.filter_eq_self.mpr fun e he => decide_eq_true (hid e he)
  refine ⟨?calls, ⟨job', ?job, hstate⟩, ?logs⟩
  case calls =>
    have hverdicts := machine.verdictsAt_filter ArsEvent.jobId (reference events) more j
    rw [hown, h, machine.verdicts_of_run hmachine] at hverdicts
    intro o ho
    rw [(calls_refines (after events) more).2, ((tracks_after events).appendAll ArsEvent.jobId more).1] at ho
    obtain ⟨v, hv, rfl⟩ := List.mem_map.mp ho
    have hmem : v.1 ∈ more := by
      rw [← machine.verdictsAt_fst ArsEvent.jobId (reference events) more]
      exact List.mem_map_of_mem hv
    have hverdict : v ∈ more.map (·, none) := by
      rw [← hverdicts]
      exact List.mem_filter.mpr ⟨hv, decide_eq_true (hid v.1 hmem)⟩
    obtain ⟨e, -, rfl⟩ := List.mem_map.mp hverdict
    rfl
  case job =>
    rw [reference_append, hown, h, machine.settle_of_run hmachine]
  case logs =>
    funext k
    rw [log_append]
    by_cases hk : k = j
    · rw [hk, Function.update_self, hown, h, machine.accepted_of_run hmachine]
    · have hnone : more.filter (fun e => e.jobId = k) = [] :=
        List.filter_eq_nil_iff.mpr fun e he => by simp [hid e he, Ne.symm hk]
      rw [Function.update_of_ne hk, hnone]
      exact List.append_nil _

/-! ## The end of a job -/

/-- Every job has an event of each kind. -/
theorem exists_event (j : String) (l : Letter) : ∃ e : ArsEvent, e.jobId = j ∧ e.letter = l := by
  cases l with
  | opened => exact ⟨.jobOpened ⟨⟨j, 0⟩, "", "", 0⟩, rfl, rfl⟩
  | started => exact ⟨.underwritingStarted ⟨⟨j, 0⟩⟩, rfl, rfl⟩
  | decided passed => exact ⟨.underwritingDecided ⟨⟨j, 0⟩, passed, none⟩, rfl, rfl⟩
  | released => exact ⟨.principalReleased ⟨⟨j, 0⟩, 0⟩, rfl, rfl⟩
  | evidence => exact ⟨.evidenceSubmitted ⟨⟨j, 0⟩, j, .success⟩, rfl, rfl⟩
  | disputed => exact ⟨.disputed ⟨⟨j, 0⟩, ""⟩, rfl, rfl⟩
  | closed => exact ⟨.closed ⟨⟨j, 0⟩, .noDispute⟩, rfl, rfl⟩

/-- Every word is one of events of the job. -/
theorem exists_events (j : String) (w : List Letter) :
    ∃ more : List ArsEvent, (∀ e ∈ more, e.jobId = j) ∧ more.map ArsEvent.letter = w := by
  induction w with
  | nil => exact ⟨[], by simp, rfl⟩
  | cons l w ih =>
    obtain ⟨e, hid, rfl⟩ := exists_event j l
    obtain ⟨more, hmore, rfl⟩ := ih
    exact ⟨e :: more, List.forall_mem_cons.mpr ⟨hid, hmore⟩, rfl⟩

/-- No job is stuck. After any run of calls, and for every job of the store: unless it was rejected, there are events of its own
that close it soonest; offered one after another, such events are all taken and close it, and no other log changes; no run of
calls in which it is offered fewer of its own events closes it; and once it was rejected or closed, no run of calls changes its
log. -/
theorem job_can_finish (events : List ArsEvent) (j : String) (job : Job) (h : (after events).job j = .ok (some job)) :
    (job.state ≠ .rejected →
      ∃ more : List ArsEvent, (∀ e ∈ more, e.jobId = j) ∧ job.state.closingWord = some (more.map ArsEvent.letter)) ∧
    (∀ w, job.state.closingWord = some w → ∀ more : List ArsEvent, (∀ e ∈ more, e.jobId = j) → more.map ArsEvent.letter = w →
      (∀ o ∈ ((after events).calls more).1, o.2 = .ok ()) ∧
        (∃ job', (after (events ++ more)).job j = .ok (some job') ∧ job'.state = .closed) ∧
        (after (events ++ more)).log = Function.update (after events).log j ((after events).log j ++ more)) ∧
      (∀ more job', (after (events ++ more)).job j = .ok (some job') → job'.state = .closed →
        ∃ w, job.state.closingWord = some w ∧ w.length ≤ (more.filter (fun e => e.jobId = j)).length) ∧
      (job.state = .rejected ∨ job.state = .closed → ∀ more, (after (events ++ more)).log j = (after events).log j) := by
  have hjob : reference events j = some job := by
    rw [job_after] at h
    exact Except.ok.inj h
  refine ⟨?way, ?closes, ?soonest, ?terminal⟩
  case way =>
    intro hrejected
    obtain ⟨w, hw⟩ := closingWord_exists hrejected
    obtain ⟨more, hid, rfl⟩ := exists_events j w
    exact ⟨more, hid, hw⟩
  case closes =>
    rintro w hw more hid rfl
    obtain ⟨hcalls, ⟨job', hjob', hstate⟩, hlog⟩ := taken_of_run hjob hid (run_closingWord hw)
    exact ⟨hcalls, ⟨job', by rw [job_after, hjob'], hstate⟩, hlog⟩
  case soonest =>
    intro more job' hjob' hstate
    obtain ⟨job'', hjob'', hrun⟩ := run_of_more more hjob
    rw [job_after, hjob''] at hjob'
    obtain rfl : job'' = job' := Option.some.inj (Except.ok.inj hjob')
    have hdistance := distance_le hrun
    rw [hstate, List.length_map] at hdistance
    have hfewer := (machine.accepted_sublist (some job) (more.filter (fun e => e.jobId = j))).length_le
    cases hw : job.state.closingWord with
    | some w =>
      have hclosed : PrincipalState.distance .closed = 0 := rfl
      rw [distance_of_word hw, hclosed] at hdistance
      exact ⟨w, rfl, by omega⟩
    | none =>
      -- only a rejected job has no such word, and it is never closed
      have hrejected : job.state = .rejected := by
        by_contra hne
        obtain ⟨w, hsome⟩ := closingWord_exists hne
        rw [hsome] at hw
        cases hw
      rw [run_terminal (Or.inl hrejected) hrun, hrejected, hstate] at hrun
      cases hrun
  case terminal =>
    intro hterminal more
    obtain ⟨job', -, hrun⟩ := run_of_more more hjob
    rw [log_append, hjob, List.map_eq_nil_iff.mp (run_terminal hterminal hrun), List.append_nil]

/-- A job that has drawn principal, in a store with a job that was just opened. -/
theorem job_can_finish_executing :
    let events : List ArsEvent := [.jobOpened ⟨⟨"a", 1⟩, "agent", "requestor", 5⟩, .underwritingStarted ⟨⟨"a", 2⟩⟩,
      .jobOpened ⟨⟨"b", 2⟩, "agent", "requestor", 5⟩, .underwritingDecided ⟨⟨"a", 3⟩, true, none⟩, .principalReleased ⟨⟨"a", 4⟩, 3⟩]
    let more : List ArsEvent := [.evidenceSubmitted ⟨⟨"a", 5⟩, "a", .success⟩, .closed ⟨⟨"a", 6⟩, .noDispute⟩]
    ∃ job, (after (events ++ more)).job "a" = .ok (some job) ∧ job.state = .closed := by
  intro events more
  exact ((job_can_finish events "a" ⟨"a", "agent", "requestor", 5, .executing, 3, 4⟩ rfl).2.1 _ rfl more (by decide) rfl).2.1

end TypeScript

end ArsSolana
