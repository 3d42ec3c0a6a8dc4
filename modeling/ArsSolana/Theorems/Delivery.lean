import ArsSolana.Theorems.Ingestion
import ArsSolana.Theorems.Words

/-!
# Events delivered more than once

A sender that does not know whether its call went through calls again. The store takes an event a second time only when it is a
release and the job is still executing: then the amount counts twice. Every other event it has taken, it refuses for good.
-/

namespace ArsSolana.TypeScript

open EventSourcing InMemoryEventStore

/-! ## One event again -/

/-- A call ends well exactly when the reference job takes the event. -/
theorem call_isOk_iff {events : List ArsEvent} {e : ArsEvent} :
    ((after events).call e).1 = .ok () ↔ ∃ job, applyEvent (reference events e.jobId) e = .ok job := by
  rw [outcome_call]
  cases applyEvent (reference events e.jobId) e <;> simp [Except.map]

/-- An event the store has taken is taken again exactly when it is a release and the job is executing. -/
theorem taken_again_iff {events : List ArsEvent} {e : ArsEvent} (h : e ∈ succeeded events) :
    ((after events).call e).1 = .ok () ↔
      e.letter = .released ∧ ∃ job, reference events e.jobId = some job ∧ job.state = .executing := by
  have hmem : e ∈ (after events).log e.jobId := mem_log_iff.mpr ⟨h, rfl⟩
  obtain ⟨job, hjob⟩ : ∃ job, reference events e.jobId = some job := by
    rw [← Option.ne_none_iff_exists', ne_eq, ← log_eq_nil_iff]
    exact List.ne_nil_of_mem hmem
  have hid : job.jobId = e.jobId := jobId_of_reference hjob
  have hletter : e.letter ∈ ((after events).log e.jobId).map ArsEvent.letter := List.mem_map_of_mem hmem
  rw [call_isOk_iff, hjob]
  simp only [applyEvent_some_iff, hid, true_and, exists_and_left, exists_eq, and_true, Option.some.injEq, exists_eq_left']
  exact allowed_again_iff (shape_of_reference hjob) hletter

/-! ## A run with repetitions -/

/-- What was sent, and a run of calls in which some of it arrived again: each call is a new event, or one the store has taken and
that is no release. -/
inductive Redelivered : List ArsEvent → List ArsEvent → Prop
  | nil : Redelivered [] []
  | first {sent delivered : List ArsEvent} (e : ArsEvent) : Redelivered sent delivered →
      Redelivered (sent ++ [e]) (delivered ++ [e])
  | again {sent delivered : List ArsEvent} {e : ArsEvent} : Redelivered sent delivered → e ∈ succeeded sent →
      e.letter ≠ .released → Redelivered sent (delivered ++ [e])

/-- A call that throws leaves the store and what it has taken. -/
theorem refused_again {events : List ArsEvent} {e : ArsEvent} (h : e ∈ succeeded events) (hletter : e.letter ≠ .released) :
    ∃ x, ((after events).call e).1 = .error x := by
  cases hcall : ((after events).call e).1 with
  | error x => exact ⟨x, rfl⟩
  | ok _ => exact absurd ((taken_again_iff h).mp hcall).1 hletter

/-- By induction over the deliveries: each further one leaves the store. -/
theorem redelivered_eq {sent delivered : List ArsEvent} (h : Redelivered sent delivered) :
    after delivered = after sent ∧ succeeded delivered = succeeded sent := by
  induction h with
  | nil => exact ⟨rfl, rfl⟩
  | first e _ ih =>
    obtain ⟨hstore, hsucceeded⟩ := ih
    exact ⟨by rw [after_concat, after_concat, hstore], by rw [succeeded_concat, succeeded_concat, hstore, hsucceeded]⟩
  | again _ hmem hletter ih =>
    obtain ⟨hstore, hsucceeded⟩ := ih
    obtain ⟨x, hx⟩ := refused_again hmem hletter
    constructor
    · rw [after_concat, hstore, call_error hx]
    · rw [succeeded_concat, hstore, hx, hsucceeded]
      simp [Except.isOk, Except.toBool]

/-- Delivery at least once is delivery once, but for releases. After any run of calls, an event the store has taken is taken again
exactly when it is a release and its job is executing; and a run in which other events arrive again, any number of times and at any
later point, leaves the store it would have left without. -/
theorem redelivery_harmless :
    (∀ events e, e ∈ succeeded events → (((after events).call e).1 = .ok () ↔
      e.letter = .released ∧ ∃ job, reference events e.jobId = some job ∧ job.state = .executing)) ∧
      ∀ sent delivered, Redelivered sent delivered → after delivered = after sent ∧ succeeded delivered = succeeded sent :=
  ⟨fun _ _ h => taken_again_iff h, fun _ _ h => redelivered_eq h⟩

/-- An evidence and a further release, both sent twice. -/
theorem redelivery_harmless_twice :
    let opened : List ArsEvent := [.jobOpened ⟨⟨"a", 1⟩, "agent", "requestor", 5⟩, .underwritingStarted ⟨⟨"a", 2⟩⟩,
      .underwritingDecided ⟨⟨"a", 3⟩, true, none⟩, .principalReleased ⟨⟨"a", 4⟩, 3⟩]
    let evidence : ArsEvent := .evidenceSubmitted ⟨⟨"a", 5⟩, "a", .success⟩
    after (opened ++ [evidence] ++ [evidence]) = after (opened ++ [evidence]) ∧
      ((after opened).call (.principalReleased ⟨⟨"a", 4⟩, 3⟩)).1 = .ok () := by
  intro opened evidence
  have hsent : ∀ events : List ArsEvent, Redelivered events events := by
    intro events
    induction events using List.reverseRecOn with
    | nil => exact .nil
    | append_singleton events e ih => exact .first e ih
  refine ⟨(redelivery_harmless.2 _ _ (.again (hsent (opened ++ [evidence])) (by decide) (by decide))).1, ?_⟩
  exact (redelivery_harmless.1 opened _ (by decide)).mpr ⟨rfl, _, rfl, rfl⟩

/-! ## A payload ingested again -/

section Ingestion

variable {PublicKey : Type} (toBase58 : PublicKey → String)

/-- Only a credit is mapped to a release. -/
theorem released_iff_creditDrawn {payload : DecodedEventPayload PublicKey} {ctx : IngestContext} {e : ArsEvent}
    (h : toArsEvent toBase58 payload ctx = some e) : e.letter = .released ↔ ∃ amount, payload = .creditDrawn amount := by
  cases payload with
  | actionRecorded actionHash outcome =>
    cases h
    simp [ArsEvent.letter, ArsEvent.move, Move.letter]
  | other name unmapped => cases h
  | _ =>
    simp only [toArsEvent, Option.bind_eq_bind, Option.bind_eq_some_iff, Option.some.injEq] at h
    obtain ⟨jobId, -, rfl⟩ := h
    simp [ArsEvent.letter, ArsEvent.move, Move.letter]

/-- What a stream appended is in the logs it leaves. -/
theorem mem_log_of_ingested {events : List ArsEvent} {feed : List (DecodedEventPayload PublicKey × IngestContext)}
    {payload : DecodedEventPayload PublicKey} {ctx : IngestContext}
    (h : ⟨payload, ctx, some (.ok ())⟩ ∈ (ingest toBase58 (after events) feed).1) :
    ∃ e, toArsEvent toBase58 payload ctx = some e ∧ e ∈ (ingest toBase58 (after events) feed).2.log e.jobId := by
  induction feed generalizing events with
  | nil => cases h
  | cons x feed ih =>
    obtain ⟨events', hstore⟩ := exists_after_ingestOne toBase58 events x.1 x.2
    simp only [ingest, hstore] at h ⊢
    rcases List.mem_cons.mp h with hhead | htail
    · obtain ⟨rfl, rfl, hended⟩ := Ingested.mk.inj hhead
      rcases ingestOne_cases toBase58 events x.1 x.2 with ⟨hne, -⟩ | ⟨e, job, hmap, hone, -, -, -, hlog⟩
      · exact absurd hended.symm hne
      · have hsame : after events' = after (events ++ [e]) := by rw [← hstore, hone]
        refine ⟨e, hmap, ((keepsToItsPart_ingest toBase58 events' feed).appends e.jobId).subset ?_⟩
        rw [hsame, hlog, Function.update_self]
        exact List.mem_append_right _ (List.mem_singleton_self e)
    · exact ih htail

/-- An indexer may read on-chain events again: a payload whose append went through, other than a credit, changes nothing when it is
ingested again after the stream. -/
theorem reingestion_harmless (events : List ArsEvent) (feed : List (DecodedEventPayload PublicKey × IngestContext))
    (payload : DecodedEventPayload PublicKey) (ctx : IngestContext)
    (h : ⟨payload, ctx, some (.ok ())⟩ ∈ (ingest toBase58 (after events) feed).1)
    (hcredit : ∀ amount, payload ≠ .creditDrawn amount) :
    (ingest toBase58 (after events) (feed ++ [(payload, ctx)])).2 = (ingest toBase58 (after events) feed).2 := by
  obtain ⟨e, hmap, hmem⟩ := mem_log_of_ingested toBase58 h
  obtain ⟨events', hstore⟩ := exists_after_ingest toBase58 events feed
  rw [hstore] at hmem
  have hletter : e.letter ≠ .released := by
    rw [ne_eq, released_iff_creditDrawn toBase58 hmap]
    rintro ⟨amount, hpayload⟩
    exact hcredit amount hpayload
  obtain ⟨x, hx⟩ := refused_again (mem_log_iff.mp hmem).1 hletter
  rw [ingest_append, hstore]
  simp only [ingest, ingestOne, hmap]
  exact call_error hx

end Ingestion

/-- An evidence that is read twice. -/
theorem reingestion_harmless_evidence :
    let opened : List ArsEvent := [.jobOpened ⟨⟨"ab", 1⟩, "agent", "requestor", 5⟩, .underwritingStarted ⟨⟨"ab", 2⟩⟩,
      .underwritingDecided ⟨⟨"ab", 3⟩, true, none⟩, .principalReleased ⟨⟨"ab", 4⟩, 3⟩]
    let evidence : DecodedEventPayload Unit × IngestContext := (.actionRecorded [0xab] 0, { atTime := 5 })
    (ingest (fun _ => "") (after opened) [evidence, evidence]).2 = (ingest (fun _ => "") (after opened) [evidence]).2 := by
  intro opened evidence
  exact reingestion_harmless (fun _ => "") opened [evidence] evidence.1 evidence.2 (List.mem_singleton.mpr rfl) nofun

end ArsSolana.TypeScript
