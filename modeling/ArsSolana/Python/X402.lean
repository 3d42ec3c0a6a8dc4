import ArsSolana.Library.Python.Json
import ArsSolana.Python.Pda

/-!
# `x402.py`: the payment gate

From the `x-payment` header to the payer of the transaction it carries, and from the payer's profile to a verdict. A function
that may raise returns an `Except`; the `except` clauses of the source are the matches on it.
-/

namespace ArsSolana.Python

/-! ## Types -/

/-- The codes of an unusable payment. -/
inductive UnusableCode where
  | noPayment | malformedPayment | noTransfer | unsignedPayer
  deriving DecidableEq, Repr

def UnusableCode.text : UnusableCode → String
  | .noPayment => "NO_PAYMENT"
  | .malformedPayment => "MALFORMED_PAYMENT"
  | .noTransfer => "NO_TRANSFER"
  | .unsignedPayer => "UNSIGNED_PAYER"

/-- The codes of an agent that was identified but does not pass. -/
inductive FailCode where
  | notBonded | bondBelowMin | scoreBelowMin | frozen | lookupFailed
  deriving DecidableEq, Repr

def FailCode.text : FailCode → String
  | .notBonded => "NOT_BONDED"
  | .bondBelowMin => "BOND_BELOW_MIN"
  | .scoreBelowMin => "SCORE_BELOW_MIN"
  | .frozen => "FROZEN"
  | .lookupFailed => "LOOKUP_FAILED"

/-- Raised when the header is malformed or yields no signed SPL transfer authority. -/
structure X402ParseError where
  code : UnusableCode
  message : String
  deriving DecidableEq, Repr

structure GatePolicy where
  /-- Minimum USDC bond, atomic. -/
  minBondAtomic : Int
  minScore : Int
  deriving DecidableEq, Repr

/-- A dictionary of JSON values, as a lookup returns it. -/
abbrev Profile := List (Py.Str × Py.Value)

inductive GateResult where
  | pass (payer : String) (profile : Profile)
  | fail (code : FailCode) (payer : String) (message : String)
  | unusable (code : UnusableCode) (message : String)

/-- What a lookup raises. Its text is what its class makes of it for `str(e)`, which may raise in turn. -/
structure LookupException where
  text : Except Py.Exception String

/-- Resolves a payer to its profile, a dictionary, or to `None` when it is not registered; may raise. Nothing checks what it
returns. -/
abbrev ProfileLookup := String → Except LookupException Py.Value

/-! ## The payer -/

variable (py : Py.Interpreter) (solders : Solders)

def decodeXPaymentHeader (headerValue : Py.Str) : Except X402ParseError Py.Value :=
  let decoded : Except Py.Exception Py.Value := do
    let raw ← Py.b64decode headerValue
    let text ← py.decodeUtf8 raw
    Py.Json.loads py text
  match decoded with
  | .ok envelope => .ok envelope
  | .error e => .error ⟨.malformedPayment, s!"x-payment header is not base64-encoded JSON: {e.message}"⟩

structure ParsedTx where
  instructions : List CompiledInstruction
  signedAccounts : List String
  deriving DecidableEq

/-- The signature of a slot nobody signed. -/
def zeroSignature : Bytes := List.replicate 64 0

/-- The loop over the required signer keys of a legacy transaction, from position `i` on. -/
def legacySigned (sigs : List Signature) : Nat → List Pubkey → List String → List String
  | _, [], signed => signed
  | i, key :: keys, signed =>
    match sigs[i]? with
    | some sig => legacySigned sigs (i + 1) keys (if sig.bytes ≠ zeroSignature then signed ++ [solders.str key] else signed)
    | none => legacySigned sigs (i + 1) keys signed

/-- The loop over the signatures of a versioned transaction, from position `i` on: `none` when a key is missing, which raises. -/
def versionedSigned (numRequired : Nat) (keys : List Pubkey) : Nat → List Signature → List String → Option (List String)
  | _, [], signed => some signed
  | i, sig :: sigs, signed =>
    if numRequired ≤ i then some signed
    else if sig.bytes ≠ zeroSignature then
      match keys[i]? with
      | some key => versionedSigned numRequired keys (i + 1) sigs (signed ++ [solders.str key])
      | none => none
    else versionedSigned numRequired keys (i + 1) sigs signed

/-- Legacy, then versioned; `none` when it is neither. -/
def tryParseTx (raw : Bytes) : Option ParsedTx :=
  match solders.transactionFromBytes raw with
  | some tx =>
    let msg := tx.message
    some ⟨msg.instructions, legacySigned solders tx.signatures 0 (msg.accountKeys.take msg.numRequiredSignatures) []⟩
  | none => do
    let vtx ← solders.versionedTransactionFromBytes raw
    let msg := vtx.message
    let signed ← versionedSigned solders msg.numRequiredSignatures msg.accountKeys 0 vtx.signatures []
    some ⟨msg.instructions, signed⟩

/-- Pull the transfer authority out of the base64 SPL-transfer transaction. -/
def extractPayer (serializedTxB64 : Py.Str) : Except X402ParseError String :=
  match Py.b64decode serializedTxB64 with
  | .error e => .error ⟨.malformedPayment, s!"payload not base64: {e.message}"⟩
  | .ok raw =>
    match tryParseTx solders raw with
    | none => .error ⟨.malformedPayment, "payment payload is not a deserializable Solana transaction"⟩
    | some parsed =>
      if parsed.signedAccounts = [] then
        .error ⟨.unsignedPayer, "no signer present in the payment transaction"⟩
      else
        -- the loop over the signed accounts returns in its first round
        match parsed.signedAccounts with
        | sa :: _ => .ok sa
        | [] => .error ⟨.noTransfer, "no signed SPL transfer found in the payment payload"⟩

/-! ## The verdict -/

/-- The gate up to the payer: a payer, or the result that is returned before one is known. -/
def findPayer (xPaymentHeader : Option Py.Str) : Except Py.Exception (GateResult ⊕ String) := do
  match xPaymentHeader with
  | none => .ok (.inl (.unusable .noPayment "x-payment header is missing"))
  | some [] => .ok (.inl (.unusable .noPayment "x-payment header is missing"))
  | some header =>
  match decodeXPaymentHeader py header with
  | .error e => .ok (.inl (.unusable e.code e.message))
  | .ok envelope =>
  let payload := (← envelope.get "payload").orElse (.dict [])
  match ← payload.get "serializedTransaction" with
  | .str serialized =>
    match extractPayer solders serialized with
    | .error e => .ok (.inl (.unusable e.code e.message))
    | .ok payer => .ok (.inr payer)
  | _ => .ok (.inl (.unusable .malformedPayment "payload.serializedTransaction missing or not a string"))

/-- The gate from the profile of the payer on. -/
def judgeProfile (policy : GatePolicy) (payer : String) (profile : Profile) : Except Py.Exception GateResult :=
  if (Py.get profile "frozen").truthy then .ok (.fail .frozen payer "agent is frozen")
  else do
    let score ← py.toInt ((Py.get profile "score").orElse (.int 0))
    if score < policy.minScore then
      let scoreText ← py.strOfInt score
      let minText ← py.strOfInt policy.minScore
      .ok (.fail .scoreBelowMin payer s!"agent score {scoreText} < required {minText}")
    else
      let bondAtomic ← py.toInt ((Py.get profile "bond_atomic").orElse (.int 0))
      if bondAtomic < policy.minBondAtomic then
        let bondText ← py.strOfInt bondAtomic
        let minText ← py.strOfInt policy.minBondAtomic
        .ok (.fail .bondBelowMin payer s!"agent bond {bondText} < required {minText}")
      else .ok (.pass payer profile)

/-- The gate from the payer on. -/
def judge (policy : GatePolicy) (lookupProfile : ProfileLookup) (payer : String) : Except Py.Exception GateResult :=
  match lookupProfile payer with
  | .error e => do
    -- the text is made in the `except` clause, which no `try` encloses
    let text ← e.text
    .ok (.fail .lookupFailed payer s!"profile lookup failed: {text}")
  | .ok .none => .ok (.fail .notBonded payer "agent has no Telaro registration")
  | .ok (.dict profile) => judgeProfile py policy payer profile
  -- `profile.get("frozen")`: no other value has the method
  | .ok profile => .error ⟨.attributeError, s!"'{profile.typeName}' object has no attribute 'get'"⟩

/-- Run the policy against the payer's profile. An exception that escapes is an error here. -/
def applyX402Gate (xPaymentHeader : Option Py.Str) (policy : GatePolicy) (lookupProfile : ProfileLookup) :
    Except Py.Exception GateResult := do
  match ← findPayer py solders xPaymentHeader with
  | .inl result => .ok result
  | .inr payer => judge py policy lookupProfile payer

/-- HTTP status for a gate outcome. -/
def statusForCode (code : String) : Nat :=
  if code ∈ ["NO_PAYMENT", "MALFORMED_PAYMENT", "NO_TRANSFER", "UNSIGNED_PAYER"] then 402
  else if code = "LOOKUP_FAILED" then 502
  else 403

end ArsSolana.Python
