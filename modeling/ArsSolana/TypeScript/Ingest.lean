import ArsSolana.Library.Bytes
import ArsSolana.TypeScript.Store

/-!
# `ingest.ts`: on-chain events as principal-track events

`PublicKey` and its `toBase58` are those of the Solana SDK, `Bytes.hex` is the `hex` of the file, and a payload has the fields
`toArsEvent` reads.
-/

namespace ArsSolana.TypeScript

/-- The names `toArsEvent` maps. -/
def mappedNames : List String := ["ActionRecorded", "ClaimSubmitted", "ClaimResolved", "ArbiterRuled", "CreditDrawn"]

/-- A decoded telaro event. -/
inductive DecodedEventPayload (PublicKey : Type) where
  | actionRecorded (actionHash : List UInt8) (outcome : Int)
  | claimSubmitted (claim : PublicKey)
  | claimResolved (status : Int)
  | arbiterRuled (ruling : Int)
  | creditDrawn (amount : Int)
  | other (name : String) (unmapped : name ∉ mappedNames)

structure IngestContext where
  /-- Unix seconds for the produced event. -/
  atTime : Int
  /-- The job id for claim and credit events, whose payload does not carry it. -/
  jobId : Option String := none
  deriving DecidableEq, Repr

/-- Telaro `ClaimStatus` as the resolution of a closing: builder-reject (3) and arbiter-for-builder (7) clear the agent. -/
def claimStatusResolution (status : Int) : Resolution :=
  if status = 3 ∨ status = 7 then .disputeRejected else .disputeUpheld

/-- The job id of the context: neither a missing nor an empty one counts. -/
def IngestContext.jobId? (ctx : IngestContext) : Option String := ctx.jobId.filter (· ≠ "")

variable {PublicKey : Type} (toBase58 : PublicKey → String)

/-- Map one decoded telaro event to an ARS event, or `none` when it has no analogue or no job id. -/
def toArsEvent (payload : DecodedEventPayload PublicKey) (ctx : IngestContext) : Option ArsEvent :=
  match payload with
  | .actionRecorded actionHash outcome =>
    let jobId := Bytes.hex actionHash
    some (.evidenceSubmitted ⟨⟨jobId, ctx.atTime⟩, jobId, if outcome = 0 then .success else .failed⟩)
  | .claimSubmitted claim => do
    let jobId ← ctx.jobId?
    some (.disputed ⟨⟨jobId, ctx.atTime⟩, toBase58 claim⟩)
  | .claimResolved status => do
    let jobId ← ctx.jobId?
    some (.closed ⟨⟨jobId, ctx.atTime⟩, claimStatusResolution status⟩)
  | .arbiterRuled ruling => do
    let jobId ← ctx.jobId?
    some (.closed ⟨⟨jobId, ctx.atTime⟩, if ruling = 1 then .disputeRejected else .disputeUpheld⟩)
  | .creditDrawn amount => do
    let jobId ← ctx.jobId?
    some (.principalReleased ⟨⟨jobId, ctx.atTime⟩, amount⟩)
  | .other _ _ => none

/-! ## Feeding the store -/

/-- A payload with its context, and how its append ended, `none` when it has no analogue. -/
structure Ingested (PublicKey : Type) where
  payload : DecodedEventPayload PublicKey
  ctx : IngestContext
  outcome : Option (Except ARSTransitionError Unit)

/-- Translate one payload and append what it maps to. -/
def ingestOne (store : InMemoryEventStore) (payload : DecodedEventPayload PublicKey) (ctx : IngestContext) :
    Option (Except ARSTransitionError Unit) × InMemoryEventStore :=
  match toArsEvent toBase58 payload ctx with
  | none => (none, store)
  | some event =>
    let (outcome, store) := store.call event
    (some outcome, store)

/-- Feed a stream of payloads, skipping the appends that throw. -/
def ingest : InMemoryEventStore → List (DecodedEventPayload PublicKey × IngestContext) →
    List (Ingested PublicKey) × InMemoryEventStore
  | store, [] => ([], store)
  | store, (payload, ctx) :: feed =>
    let (outcome, store) := ingestOne toBase58 store payload ctx
    let (rest, store) := ingest store feed
    (⟨payload, ctx, outcome⟩ :: rest, store)

/-- The principal a stream released to a job: the amounts of the `CreditDrawn` payloads addressed to it whose append
succeeded. -/
def credited (jobId : String) (stream : List (Ingested PublicKey)) : Int :=
  (stream.filterMap fun
    | ⟨.creditDrawn amount, ctx, some (.ok ())⟩ => if ctx.jobId = some jobId then some amount else none
    | _ => none).sum

end ArsSolana.TypeScript
