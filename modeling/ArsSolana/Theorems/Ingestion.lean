import ArsSolana.Lemmas.StoreRefinement
import ArsSolana.TypeScript.Ingest

/-!
# What on-chain events can do to a store

Ingestion translates payloads to evidence, disputes, closings and releases. It opens no job, decides no underwriting, and moves
a job only forward.
-/

namespace ArsSolana.TypeScript

open EventSourcing InMemoryEventStore

/-- The states on-chain events move a job through, in order. -/
def principalOrder : List PrincipalState := [.releasable, .executing, .evidenceSubmitted, .disputed, .closed]

/-- A further release in EXECUTING, or a move forward. -/
def Advances (s t : PrincipalState) : Prop :=
  (s = .executing ∧ t = .executing) ∨
    (s ∈ principalOrder ∧ t ∈ principalOrder ∧ principalOrder.idxOf s < principalOrder.idxOf t)

instance (s t : PrincipalState) : Decidable (Advances s t) := by
  unfold Advances
  infer_instance

/-- The kinds of events payloads are mapped to. -/
def chainLetters : List Letter := [.released, .evidence, .disputed, .closed]

/-- The states in which the settlement layer moves a job, and those that end it. -/
def untouched : List PrincipalState := [.awaitUnderwriting, .underwriting, .rejected, .closed]

/-- Where an event of a mapped kind is allowed, it advances the job. -/
theorem advances_of_allowed {s : PrincipalState} {l : Letter} (hl : l ∈ chainLetters) (h : some s ∈ l.allowedIn) :
    Advances s l.state ∧ s ∉ untouched := by
  have hallowed := Letter.mem_allowedIn.mp h
  simp only [chainLetters, List.mem_cons, List.not_mem_nil, or_false] at hl
  rcases hl with rfl | rfl | rfl | rfl
  · rcases hallowed with hs | hs
    · cases hs
      decide
    · cases hs
      decide
  · cases hallowed
    decide
  · cases hallowed
    decide
  · rcases hallowed with hs | hs
    · cases hs
      decide
    · cases hs
      decide

section

variable {PublicKey : Type} (toBase58 : PublicKey → String)

/-- Payloads are mapped to events of four kinds. -/
theorem letter_of_toArsEvent {payload : DecodedEventPayload PublicKey} {ctx : IngestContext} {e : ArsEvent}
    (h : toArsEvent toBase58 payload ctx = some e) : e.letter ∈ chainLetters := by
  cases payload with
  | actionRecorded actionHash outcome =>
    cases h
    simp [chainLetters, ArsEvent.letter, ArsEvent.move, Move.letter]
  | other name unmapped => cases h
  | _ =>
    simp only [toArsEvent, Option.bind_eq_bind, Option.bind_eq_some_iff, Option.some.injEq] at h
    obtain ⟨jobId, -, rfl⟩ := h
    simp [chainLetters, ArsEvent.letter, ArsEvent.move, Move.letter]

/-- What a payload releases to a job, if its append succeeds: the amount of a credit addressed to that job. -/
def creditOf (jobId : String) (payload : DecodedEventPayload PublicKey) (ctx : IngestContext) : Int :=
  match payload with
  | .creditDrawn amount => if ctx.jobId = some jobId then amount else 0
  | _ => 0

/-- The event of a payload releases to its job what the payload credits to it. -/
theorem amount_of_toArsEvent {payload : DecodedEventPayload PublicKey} {ctx : IngestContext} {e : ArsEvent}
    (h : toArsEvent toBase58 payload ctx = some e) (j : String) :
    creditOf j payload ctx = if e.jobId = j then e.move.amount else 0 := by
  cases payload with
  | actionRecorded actionHash outcome =>
    cases h
    simp [creditOf, ArsEvent.move, Move.amount]
  | other name unmapped => cases h
  | creditDrawn amount =>
    simp only [toArsEvent, Option.bind_eq_bind, Option.bind_eq_some_iff, Option.some.injEq, IngestContext.jobId?,
      Option.filter_eq_some_iff] at h
    obtain ⟨jobId, ⟨hctx, -⟩, rfl⟩ := h
    by_cases hj : jobId = j <;> simp [creditOf, ArsEvent.move, Move.amount, hctx, ArsEvent.jobId, ArsEvent.base, hj]
  | _ =>
    simp only [toArsEvent, Option.bind_eq_bind, Option.bind_eq_some_iff, Option.some.injEq] at h
    obtain ⟨jobId, -, rfl⟩ := h
    simp [creditOf, ArsEvent.move, Move.amount]

/-- What the first payload of a stream adds. -/
theorem credited_cons (j : String) (i : Ingested PublicKey) (stream : List (Ingested PublicKey)) :
    credited j (i :: stream) =
      (if i.outcome = some (.ok ()) then creditOf j i.payload i.ctx else 0) + credited j stream := by
  obtain ⟨payload, ctx, outcome⟩ := i
  unfold credited creditOf
  rcases outcome with _ | _ | _
  · simp
  · simp
  · cases payload with
    | creditDrawn amount => by_cases hj : ctx.jobId = some j <;> simp [hj]
    | _ => simp

/-! ## One payload -/

/-- One payload on a reachable store: nothing changes, or the event it is mapped to joins the log of a job it advances. -/
theorem ingestOne_cases (events : List ArsEvent) (payload : DecodedEventPayload PublicKey) (ctx : IngestContext) :
    ((ingestOne toBase58 (after events) payload ctx).1 ≠ some (.ok ()) ∧
        (ingestOne toBase58 (after events) payload ctx).2 = after events) ∨
      ∃ e job, toArsEvent toBase58 payload ctx = some e ∧
        ingestOne toBase58 (after events) payload ctx = (some (.ok ()), after (events ++ [e])) ∧
        reference events e.jobId = some job ∧ some job.state ∈ e.letter.allowedIn ∧
        reference (events ++ [e]) = Function.update (reference events) e.jobId (some (job.after e)) ∧
        (after (events ++ [e])).log = Function.update (after events).log e.jobId ((after events).log e.jobId ++ [e]) := by
  unfold ingestOne
  cases hmap : toArsEvent toBase58 payload ctx with
  | none => exact Or.inl ⟨nofun, rfl⟩
  | some e =>
    have hl := letter_of_toArsEvent toBase58 hmap
    cases hcall : ((after events).call e).1 with
    | error x => exact Or.inl ⟨by simp [hcall], call_error hcall⟩
    | ok _ =>
      obtain ⟨next, happly, href, hlog⟩ := call_ok hcall
      cases hjob : reference events e.jobId with
      | none =>
        rw [hjob] at happly
        rw [letter_of_applyEvent_none happly] at hl
        simp [chainLetters] at hl
      | some job =>
        rw [hjob] at happly
        obtain ⟨-, hin, rfl⟩ := applyEvent_some_iff.mp happly
        exact Or.inr ⟨e, job, rfl, by simp only [after_concat, hcall], hjob, hin, href, hlog⟩

/-- The store after one payload, seen from one job: its log is as it was, or one event longer, and then the job advanced. -/
def StepsForward (store store' : InMemoryEventStore) : Prop :=
  ∀ j, store'.log j = store.log j ∨
    ∃ e job job', store'.log j = store.log j ++ [e] ∧ store.job j = .ok (some job) ∧ store'.job j = .ok (some job') ∧
      Advances job.state job'.state

/-- One payload moves each job at most one step forward. -/
theorem stepsForward_ingestOne (events : List ArsEvent) (payload : DecodedEventPayload PublicKey) (ctx : IngestContext) :
    StepsForward (after events) (ingestOne toBase58 (after events) payload ctx).2 := by
  intro j
  rcases ingestOne_cases toBase58 events payload ctx with ⟨-, hstore⟩ | ⟨e, job, hmap, hone, hjob, hin, href, hlog⟩
  · exact Or.inl (by rw [hstore])
  · rw [hone]
    by_cases hj : j = e.jobId
    · subst hj
      refine Or.inr ⟨e, job, job.after e, by rw [hlog, Function.update_self], ?_, ?_, ?_⟩
      · rw [job_after, hjob]
      · rw [job_after, href, Function.update_self]
      · exact (advances_of_allowed (letter_of_toArsEvent toBase58 hmap) hin).1
    · exact Or.inl (by rw [hlog, Function.update_of_ne hj])

/-! ## A stream of payloads -/

/-- What a stream may do to a store, `released` being what it draws from each job. -/
structure KeepsToItsPart (store store' : InMemoryEventStore) (released : String → Int) : Prop where
  /-- No job is opened. -/
  ids : store'.jobIds = store.jobIds
  /-- A job still in underwriting, or ended, is left alone. -/
  untouched : ∀ j job, store.job j = .ok (some job) → job.state ∈ untouched → store'.log j = store.log j
  /-- Every log is only appended to. -/
  appends : ∀ j, store.log j <+: store'.log j
  /-- The released principal of a job grows by what was drawn from it. -/
  released : ∀ j job, store.job j = .ok (some job) →
    ∃ job', store'.job j = .ok (some job') ∧ job'.releasedAtomic = job.releasedAtomic + released j

theorem KeepsToItsPart.refl (store : InMemoryEventStore) : KeepsToItsPart store store fun _ => 0 where
  ids := rfl
  untouched _ _ _ _ := rfl
  appends _ := List.prefix_refl _
  released _ job h := ⟨job, h, (Int.add_zero _).symm⟩

theorem KeepsToItsPart.trans {s t u : InMemoryEventStore} {f g : String → Int} (h : KeepsToItsPart s t f)
    (h' : KeepsToItsPart t u g) : KeepsToItsPart s u fun j => f j + g j where
  ids := h'.ids.trans h.ids
  untouched := by
    intro j job hjob hstate
    have hlog := h.untouched j job hjob hstate
    have hjob' : t.job j = .ok (some job) := by rw [job_eq, hlog, ← job_eq, hjob]
    exact (h'.untouched j job hjob' hstate).trans hlog
  appends j := (h.appends j).trans (h'.appends j)
  released := by
    intro j job hjob
    obtain ⟨job', hjob', hf⟩ := h.released j job hjob
    obtain ⟨job'', hjob'', hg⟩ := h'.released j job' hjob'
    exact ⟨job'', hjob'', by rw [hg, hf, Int.add_assoc]⟩

/-- An event of a known job adds no key to the store. -/
theorem jobIds_concat {events : List ArsEvent} {e : ArsEvent} {job : Job} (h : reference events e.jobId = some job) :
    (after (events ++ [e])).jobIds = (after events).jobIds := by
  have hkept : e.jobId ∈ (after events).logs.keys := by
    refine (kept_after events e.jobId).mpr fun hnil => ?_
    have hjob := tracks_after events e.jobId
    rw [hnil, h] at hjob
    cases hjob
  rw [after_concat]
  rcases (after events).call_cases e with ⟨x, hcall⟩ | hcall
  · rw [hcall]
  · rw [hcall]
    exact OrderedMap.keys_set_of_mem hkept _

/-- One payload keeps to the indexer's part. -/
theorem keepsToItsPart_ingestOne (events : List ArsEvent) (payload : DecodedEventPayload PublicKey) (ctx : IngestContext) :
    KeepsToItsPart (after events) (ingestOne toBase58 (after events) payload ctx).2 fun j =>
      if (ingestOne toBase58 (after events) payload ctx).1 = some (.ok ()) then creditOf j payload ctx else 0 := by
  rcases ingestOne_cases toBase58 events payload ctx with ⟨hne, hstore⟩ | ⟨e, job, hmap, hone, hjob, hin, href, hlog⟩
  · simp only [hne, if_false, hstore]
    exact .refl _
  · have hjob' : (after events).job e.jobId = .ok (some job) := by rw [job_after, hjob]
    simp only [hone, if_true]
    refine ⟨jobIds_concat hjob, ?untouched, ?appends, ?released⟩
    case untouched =>
      intro j job₀ hjob₀ hstate
      have hj : j ≠ e.jobId := by
        rintro rfl
        obtain rfl := Option.some.inj (Except.ok.inj (hjob'.symm.trans hjob₀))
        exact (advances_of_allowed (letter_of_toArsEvent toBase58 hmap) hin).2 hstate
      rw [hlog, Function.update_of_ne hj]
    case appends =>
      intro j
      by_cases hj : j = e.jobId
      · subst hj
        rw [hlog, Function.update_self]
        exact List.prefix_append _ _
      · have hsame : (after (events ++ [e])).log j = (after events).log j := by rw [hlog, Function.update_of_ne hj]
        exact hsame ▸ List.prefix_refl _
    case released =>
      intro j job₀ hjob₀
      rw [amount_of_toArsEvent toBase58 hmap j]
      by_cases hj : j = e.jobId
      · subst hj
        obtain rfl := Option.some.inj (Except.ok.inj (hjob'.symm.trans hjob₀))
        exact ⟨job.after e, by rw [job_after, href, Function.update_self], by rw [if_pos rfl]; rfl⟩
      · refine ⟨job₀, ?_, by rw [if_neg (Ne.symm hj), Int.add_zero]⟩
        rw [job_after, href, Function.update_of_ne hj, ← job_after, hjob₀]

/-- A stream fed to a reachable store leaves a reachable store. -/
theorem exists_after_ingestOne (events : List ArsEvent) (payload : DecodedEventPayload PublicKey) (ctx : IngestContext) :
    ∃ events', (ingestOne toBase58 (after events) payload ctx).2 = after events' := by
  rcases ingestOne_cases toBase58 events payload ctx with ⟨-, hstore⟩ | ⟨e, _, -, hone, -⟩
  · exact ⟨events, hstore⟩
  · exact ⟨events ++ [e], by rw [hone]⟩

/-- A stream in two parts. -/
theorem ingest_append (store : InMemoryEventStore) (as bs : List (DecodedEventPayload PublicKey × IngestContext)) :
    (ingest toBase58 store (as ++ bs)).2 = (ingest toBase58 (ingest toBase58 store as).2 bs).2 := by
  induction as generalizing store with
  | nil => rfl
  | cons x as ih => simp only [List.cons_append, ingest, ih]

/-- A stream leads from a reachable store to a reachable store. -/
theorem exists_after_ingest (events : List ArsEvent) (feed : List (DecodedEventPayload PublicKey × IngestContext)) :
    ∃ events', (ingest toBase58 (after events) feed).2 = after events' := by
  induction feed generalizing events with
  | nil => exact ⟨events, rfl⟩
  | cons x feed ih =>
    obtain ⟨events', h⟩ := exists_after_ingestOne toBase58 events x.1 x.2
    simp only [ingest, h]
    exact ih events'

/-- A stream keeps to the indexer's part, by induction over its payloads. -/
theorem keepsToItsPart_ingest (events : List ArsEvent) (feed : List (DecodedEventPayload PublicKey × IngestContext)) :
    KeepsToItsPart (after events) (ingest toBase58 (after events) feed).2 fun j =>
      credited j (ingest toBase58 (after events) feed).1 := by
  induction feed generalizing events with
  | nil => exact .refl _
  | cons x feed ih =>
    obtain ⟨events', h⟩ := exists_after_ingestOne toBase58 events x.1 x.2
    have hone := keepsToItsPart_ingestOne toBase58 events x.1 x.2
    simp only [ingest, credited_cons]
    rw [h] at hone ⊢
    exact hone.trans (ih events')

/-- On-chain events never do the settlement layer's part. Whatever store a run of appends has left, a stream of payloads opens no
job, leaves the jobs in underwriting and the ended ones alone, only appends to the logs of the others, releases to each job what
was drawn from it; and each payload of the stream leaves a job where it was or advances it. -/
theorem ingest_keeps_to_its_part (events : List ArsEvent) (feed : List (DecodedEventPayload PublicKey × IngestContext)) :
    KeepsToItsPart (after events) (ingest toBase58 (after events) feed).2
        (fun j => credited j (ingest toBase58 (after events) feed).1) ∧
      ∀ next, StepsForward (ingest toBase58 (after events) feed).2 (ingest toBase58 (after events) (feed ++ [next])).2 := by
  refine ⟨keepsToItsPart_ingest toBase58 events feed, fun next => ?_⟩
  obtain ⟨events', h⟩ := exists_after_ingest toBase58 events feed
  rw [ingest_append, h]
  exact stepsForward_ingestOne toBase58 events' next.1 next.2

end

end ArsSolana.TypeScript
