import ArsSolana.Lemmas.StoreRefinement
import ArsSolana.Library.Outcome
import ArsSolana.Python.Unchecked
import ArsSolana.TypeScript.Unchecked

/-!
# A stored log replays, unless a tag outside the union was appended to an open job

`append` validates by what `applyEvent` throws. A record of an unknown tag is refused without a job, on a job of another id and on
a terminal job; on any other job `applyEvent` returns `undefined`, the record is stored, and the log does not replay again. This
is the only way to spoil a log.
-/

namespace ArsSolana.TypeScript.Unchecked

open EventSourcing

/-- An event of the union has one of the seven tags. -/
theorem type_mem_tags (e : ArsEvent) : e.type ∈ tags := by
  cases e <;> simp [ArsEvent.type, tags]

/-! ## One record -/

/-- An accepted event leads to a job. -/
theorem applyEvent_event {job next : Option Job} {e : ArsEvent} (h : applyEvent job (.event e) = .ok next) :
    ∃ j, next = some j ∧ TypeScript.applyEvent job e = .ok j := by
  have hmap : some <$> TypeScript.applyEvent job e = .ok next := h
  rw [map_eq_pure_bind] at hmap
  obtain ⟨j, hj, hnext⟩ := Outcome.bind_ok hmap
  exact ⟨j, (Except.ok.inj hnext).symm, hj⟩

/-- `applyEvent` throws on an unknown tag without a job, on a job of another id and on a terminal job. -/
theorem applyEvent_throws_iff {job : Option Job} {record : Record} (htag : record.type ∉ tags) :
    (∃ x, applyEvent job record = .error x) ↔
      ∀ j, job = some j → j.jobId ≠ record.jobId ∨ isTerminal j.state = true := by
  cases record with
  | event e => exact absurd (type_mem_tags e) htag
  | foreign base type outside =>
    cases job with
    | none => simp [applyEvent]
    | some j =>
      simp only [applyEvent, Record.jobId, Option.some.injEq, forall_eq']
      by_cases hid : j.jobId = base.jobId
      · by_cases hterminal : isTerminal j.state = true <;> simp [hid, hterminal]
      · simp [hid]

/-- Where it does not throw on an unknown tag, it returns `undefined`. -/
theorem applyEvent_undefined {job next : Option Job} {record : Record} (htag : record.type ∉ tags)
    (h : applyEvent job record = .ok next) : next = none := by
  cases record with
  | event e => exact absurd (type_mem_tags e) htag
  | foreign base type outside =>
    unfold applyEvent at h
    cases job with
    | none => cases h
    | some j =>
      simp only at h
      split_ifs at h
      exact (Except.ok.inj h).symm

/-- An accepted record leaves a job of its id, or no job. -/
theorem jobId_of_applyEvent {job : Option Job} {j : Job} {record : Record} (h : applyEvent job record = .ok (some j)) :
    j.jobId = record.jobId := by
  cases record with
  | event e =>
    obtain ⟨j', hj', happly⟩ := applyEvent_event h
    cases hj'
    cases job with
    | none =>
      obtain ⟨a, ha, rfl⟩ := (applyEvent_refines none e).of_ok happly
      obtain ⟨_, _, _, _, hopened⟩ := track_none_iff.mp ha
      exact congrArg Account.jobId hopened
    | some before =>
      obtain ⟨hid, -, rfl⟩ := applyEvent_some_iff.mp happly
      exact hid
  | foreign base type outside =>
    have htag : (Record.foreign base type outside).type ∉ tags := outside
    cases applyEvent_undefined htag h

/-! ## A log -/

/-- The loop of `replay`. -/
def fold (records : List Record) : Except ARSTransitionError (Option Job) := records.foldlM applyEvent none

/-- What `replay` makes of the job its loop ends with. -/
def derived : Option Job → Except ARSTransitionError Job
  | none => .error ⟨.emptyLog, "cannot replay an empty event log"⟩
  | some last => .ok last

/-- `replay` is the loop, and the refusal of a log that left no job. -/
theorem replay_eq (records : List Record) : replay records = fold records >>= derived := by
  unfold replay fold
  simp only [bind_pure_comp, List.forIn_yield_eq_foldlM, id_map']
  cases records.foldlM applyEvent none with
  | error x => rfl
  | ok job => cases job <;> rfl

theorem fold_concat (records : List Record) (record : Record) :
    fold (records ++ [record]) = fold records >>= fun job => applyEvent job record := by
  simp [fold, List.foldlM_append]

namespace InMemoryEventStore

/-- `job` replays a log that holds a record. -/
theorem job_eq (store : InMemoryEventStore) (j : String) :
    store.job j = if (store.log j).length > 0 then some <$> replay (store.log j) else .ok none := by
  unfold job log
  cases store.logs.get j <;> rfl

/-- The job that can be read is the one the log folds to. -/
theorem fold_of_job {store : InMemoryEventStore} {j : String} {current : Option Job} (h : store.job j = .ok current) :
    fold (store.log j) = .ok current := by
  rw [job_eq] at h
  split at h
  · rw [replay_eq, map_eq_pure_bind] at h
    obtain ⟨job, hjob, hcurrent⟩ := Outcome.bind_ok h
    obtain ⟨last, hlast, hderived⟩ := Outcome.bind_ok hjob
    cases last with
    | none => cases hderived
    | some last =>
      cases hderived
      rw [hlast]
      exact hcurrent
  · rename_i hlength
    cases h
    rw [List.eq_nil_of_length_eq_zero (by omega : (store.log j).length = 0)]
    rfl

/-- There is no job only where there is no record. -/
theorem log_eq_nil_of_job {store : InMemoryEventStore} {j : String} (h : store.job j = .ok none) : store.log j = [] := by
  rw [job_eq] at h
  split at h
  · cases hreplay : replay (store.log j) <;> rw [hreplay] at h <;> cases h
  · exact List.eq_nil_of_length_eq_zero (by omega)

/-! ## One call -/

/-- The three ends of a call: the job cannot be read, the record is refused, the record is stored. -/
theorem call_cases (store : InMemoryEventStore) (record : Record) :
    (∃ x, store.job record.jobId = .error x ∧ store.call record = (.error x, store)) ∨
    (∃ current x, store.job record.jobId = .ok current ∧ applyEvent current record = .error x ∧
      store.call record = (.error x, store)) ∨
    (∃ current next, store.job record.jobId = .ok current ∧ applyEvent current record = .ok next ∧
      store.call record = (.ok (), ⟨store.logs.set record.jobId (store.log record.jobId ++ [record])⟩)) := by
  rw [job_eq]
  exact checkedWrite_cases _ _ _ store

theorem log_set (store : InMemoryEventStore) (k : String) (records : List Record) :
    InMemoryEventStore.log ⟨store.logs.set k records⟩ = Function.update store.log k records := store.logs.getD_set k records []

/-- The job of a log a record was added to: what `applyEvent` made of the record, or nothing that can be read. -/
theorem job_stored {store : InMemoryEventStore} {record : Record} {current next : Option Job}
    (hjob : store.job record.jobId = .ok current) (happly : applyEvent current record = .ok next) :
    InMemoryEventStore.job ⟨store.logs.set record.jobId (store.log record.jobId ++ [record])⟩ record.jobId =
      match next with
      | none => .error ⟨.emptyLog, "cannot replay an empty event log"⟩
      | some job => .ok (some job) := by
  have hfold : fold (store.log record.jobId ++ [record]) = .ok next := by
    rw [fold_concat, fold_of_job hjob]
    exact happly
  rw [job_eq, log_set, Function.update_self, if_pos (by simp), replay_eq, hfold]
  cases next <;> rfl

/-- The job of another id stays. -/
theorem job_set_of_ne {store : InMemoryEventStore} {j k : String} (h : j ≠ k) (records : List Record) :
    InMemoryEventStore.job ⟨store.logs.set k records⟩ j = store.job j := by
  unfold job
  rw [store.logs.get_set_of_ne h]

/-! ## What `append` promises -/

/-- The promise of `append`: it throws and leaves the store, or the job can be read afterwards. -/
def Promised (store : InMemoryEventStore) (record : Record) : Prop :=
  (∃ x, store.call record = (.error x, store)) ∨
    ∃ left, store.call record = (.ok (), left) ∧ ∃ job, left.job record.jobId = .ok (some job)

/-- The record has a tag outside the union, and its job can be read and is not terminal. -/
def Spoils (store : InMemoryEventStore) (record : Record) : Prop :=
  record.type ∉ tags ∧ ∃ job, store.job record.jobId = .ok (some job) ∧ isTerminal job.state = false

/-- Every log that holds a record replays. -/
def Replays (store : InMemoryEventStore) : Prop := ∀ j, store.log j ≠ [] → ∃ job, store.job j = .ok (some job)

/-- A job is kept under its own id. -/
def Keyed (store : InMemoryEventStore) : Prop := ∀ j job, store.job j = .ok (some job) → job.jobId = j

/-- A call keeps every job under its id. -/
theorem keyed_call {store : InMemoryEventStore} (h : store.Keyed) (record : Record) : (store.call record).2.Keyed := by
  rcases store.call_cases record with ⟨x, -, hcall⟩ | ⟨_, x, -, -, hcall⟩ | ⟨current, next, hjob, happly, hcall⟩
  · rw [hcall]
    exact h
  · rw [hcall]
    exact h
  · rw [hcall]
    intro j job hread
    by_cases hj : j = record.jobId
    · subst hj
      rw [job_stored hjob happly] at hread
      cases next with
      | none => cases hread
      | some next =>
        cases hread
        exact jobId_of_applyEvent happly
    · rw [job_set_of_ne hj] at hread
      exact h j job hread

/-- A call spoils a log exactly by storing a record of an unknown tag on a job that is open. -/
theorem promised_iff {store : InMemoryEventStore} (h : store.Keyed) (record : Record) :
    store.Promised record ↔ ¬store.Spoils record := by
  rcases store.call_cases record with ⟨x, hjob, hcall⟩ | ⟨current, x, hjob, happly, hcall⟩ | ⟨current, next, hjob, happly, hcall⟩
  · refine iff_of_true (Or.inl ⟨x, hcall⟩) ?_
    rintro ⟨-, job, hread, -⟩
    rw [hjob] at hread
    cases hread
  · refine iff_of_true (Or.inl ⟨x, hcall⟩) ?_
    rintro ⟨htag, job, hread, hopen⟩
    rw [hjob] at hread
    cases hread
    rcases (applyEvent_throws_iff htag).mp ⟨x, happly⟩ job rfl with hid | hterminal
    · exact hid (h _ _ hjob)
    · rw [hopen] at hterminal
      cases hterminal
  · have hread := job_stored hjob happly
    by_cases htag : record.type ∈ tags
    · refine iff_of_true (Or.inr ⟨_, hcall, ?_⟩) (fun hspoils => hspoils.1 htag)
      cases record with
      | event e =>
        obtain ⟨j, rfl, -⟩ := applyEvent_event happly
        exact ⟨j, hread⟩
      | foreign base type outside => exact absurd htag outside
    · obtain rfl := applyEvent_undefined htag happly
      refine iff_of_false ?_ ?_
      · rintro (⟨x, hthrown⟩ | ⟨left, hleft, job, hjob'⟩)
        · rw [hcall] at hthrown
          cases hthrown
        · rw [hcall] at hleft
          cases hleft
          rw [hread] at hjob'
          cases hjob'
      · rw [not_not]
        refine ⟨htag, ?_⟩
        have hnot := mt (applyEvent_throws_iff htag).mpr (by rw [happly]; rintro ⟨x, ⟨⟩⟩)
        push Not at hnot
        obtain ⟨job, rfl, -, hopen⟩ := hnot
        exact ⟨job, hjob, by simpa using hopen⟩

/-- One call: every log replays after it exactly when every log did before it and the call spoils none. -/
theorem replays_call_iff {store : InMemoryEventStore} (h : store.Keyed) (record : Record) :
    (store.call record).2.Replays ↔ store.Replays ∧ ¬store.Spoils record := by
  rw [← promised_iff h record]
  rcases store.call_cases record with ⟨x, -, hcall⟩ | ⟨_, x, -, -, hcall⟩ | ⟨current, next, hjob, happly, hcall⟩
  · rw [hcall]
    exact ⟨fun hreplays => ⟨hreplays, Or.inl ⟨x, hcall⟩⟩, And.left⟩
  · rw [hcall]
    exact ⟨fun hreplays => ⟨hreplays, Or.inl ⟨x, hcall⟩⟩, And.left⟩
  · rw [hcall]
    constructor
    · intro hreplays
      refine ⟨?_, Or.inr ⟨_, hcall, hreplays record.jobId ?_⟩⟩
      · intro j hlog
        by_cases hj : j = record.jobId
        · subst hj
          cases current with
          | none => exact absurd (log_eq_nil_of_job hjob) hlog
          | some job => exact ⟨job, hjob⟩
        · have hread := hreplays j
          rw [log_set, Function.update_of_ne hj, job_set_of_ne hj] at hread
          exact hread hlog
      · rw [log_set, Function.update_self]
        exact List.append_ne_nil_of_right_ne_nil _ (List.cons_ne_nil _ _)
    · rintro ⟨hreplays, hpromised⟩ j hlog
      by_cases hj : j = record.jobId
      · subst hj
        rcases hpromised with ⟨x, hthrown⟩ | ⟨left, hleft, hread⟩
        · rw [hcall] at hthrown
          cases hthrown
        · rw [hcall] at hleft
          cases hleft
          exact hread
      · rw [log_set, Function.update_of_ne hj] at hlog
        rw [job_set_of_ne hj]
        exact hreplays j hlog

/-! ## A run of calls -/

theorem after_concat (records : List Record) (record : Record) :
    after (records ++ [record]) = ((after records).call record).2 := by
  simp [after, List.foldl_append]

/-- In every reachable store every job is under its id. -/
theorem keyed_after (records : List Record) : (after records).Keyed := by
  induction records using List.reverseRecOn with
  | nil =>
    intro j job hread
    cases hread
  | append_singleton records record ih =>
    rw [after_concat]
    exact keyed_call ih record

/-- A run of calls: every log replays after it exactly when none of its calls spoils one. -/
theorem replays_after_iff (records : List Record) :
    (after records).Replays ↔ ∀ before record, before ++ [record] <+: records → ¬(after before).Spoils record := by
  induction records using List.reverseRecOn with
  | nil =>
    refine iff_of_true ?_ ?_
    · intro j hlog
      exact absurd rfl hlog
    · intro before record hpre
      simp at hpre
  | append_singleton records last ih =>
    rw [after_concat, replays_call_iff (keyed_after records), ih]
    constructor
    · rintro ⟨hbefore, hlast⟩ before record hpre
      rcases List.prefix_concat_iff.mp hpre with hwhole | hpre
      · obtain ⟨rfl, hsame⟩ := List.append_inj' hwhole rfl
        cases hsame
        exact hlast
      · exact hbefore before record hpre
    · intro hnone
      refine ⟨?_, hnone records last (List.prefix_refl _)⟩
      intro before record hpre
      exact hnone before record (hpre.trans (List.prefix_append _ _))

/-- Events of the union spoil no log. -/
theorem replays_after_events (events : List ArsEvent) : (after (events.map Record.event)).Replays := by
  rw [replays_after_iff]
  rintro before record hpre ⟨htag, -⟩
  have hmem : record ∈ events.map Record.event := hpre.subset (List.mem_append_right _ (List.mem_singleton_self _))
  obtain ⟨e, -, rfl⟩ := List.mem_map.mp hmem
  exact htag (type_mem_tags e)

/-- Over any run of appends of records of any tag: an append throws and leaves the store, or its job can be read afterwards,
unless it spoils the log; every log replays as long as no append spoils one, and events of the union spoil none. An unknown tag
is refused by `apply_event` in every state, by `applyEvent` in every state but that of an open job of its id. -/
theorem stored_log_replays_unless_spoilt (records : List Record) (record : Record) :
    ((after records).Promised record ↔ ¬(after records).Spoils record) ∧
      ((after records).Replays ↔ ∀ before last, before ++ [last] <+: records → ¬(after before).Spoils last) ∧
      (∀ events : List ArsEvent, (after (events.map Record.event)).Replays) ∧
      (∀ job, record.type ∉ tags →
        ((∃ x, applyEvent job record = .error x) ↔
          ∀ j, job = some j → j.jobId ≠ record.jobId ∨ isTerminal j.state = true)) ∧
      ∀ job jobId atTime type className,
        ∃ x, Python.Unchecked.applyEvent job (.foreign jobId atTime type className) = .error x :=
  ⟨promised_iff (keyed_after records) record, replays_after_iff records, replays_after_events,
    fun _ htag => applyEvent_throws_iff htag, Python.Unchecked.applyEvent_foreign⟩

namespace RepaidExample

def opened : Record := .event (.jobOpened ⟨⟨"job-1", 1⟩, "agent", "requestor", 5⟩)

def repaid : Record := .foreign ⟨"job-1", 2⟩ "PrincipalRepaid" (by decide)

/-- An open job and a repayment: the append ends without a throw, and the job cannot be read any more. -/
theorem repaid_spoils :
    ((after [opened]).call repaid).1 = .ok () ∧
      (after [opened, repaid]).job "job-1" = .error ⟨.emptyLog, "cannot replay an empty event log"⟩ ∧
      ¬(∀ records record, (after records).Promised record) ∧
      ¬(∀ job record, record.type ∉ tags → ∃ x, applyEvent job record = .error x) := by
  have hcall : ((after [opened]).call repaid).1 = .ok () := rfl
  have hread : (after [opened, repaid]).job "job-1" = .error ⟨.emptyLog, "cannot replay an empty event log"⟩ := rfl
  refine ⟨hcall, hread, ?_, ?_⟩
  · intro hpromised
    rcases hpromised [opened] repaid with ⟨x, hthrown⟩ | ⟨left, hleft, job, hjob⟩
    · rw [hthrown] at hcall
      cases hcall
    · have hafter : left = after [opened, repaid] := (congrArg Prod.snd hleft).symm
      rw [hafter] at hjob
      cases hread.symm.trans hjob
  · intro hthrows
    obtain ⟨x, hthrown⟩ := hthrows (some ⟨"job-1", "agent", "requestor", 5, .awaitUnderwriting, 0, 1⟩) repaid (by decide)
    cases hthrown

end RepaidExample

end InMemoryEventStore

end ArsSolana.TypeScript.Unchecked
