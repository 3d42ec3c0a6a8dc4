import ArsSolana.Lemmas.Gate
import ArsSolana.Library.Python.Record
import ArsSolana.Theorems.Payer

/-!
# The payment header, from the client to the gate

A client wraps its transaction as base64 into a JSON envelope, and that as base64 into the header. The gate reads back what the
client wrapped: its answer depends on the transaction alone, never on the encoding.
-/

namespace ArsSolana.Python

open Py.Json

/-- `base64.b64encode(json.dumps(envelope).encode("utf-8")).decode("utf-8")`. -/
def encodeHeader (py : Py.Interpreter) (envelope : Py.Value) : Except Py.Exception Py.Str := do
  let doc ← dumps py none envelope
  let raw ← Py.encodeUtf8 doc
  .ok (Py.b64encode raw)

/-- The envelope of a payment on devnet. -/
def paymentEnvelope (serializedTx : Py.Str) : Py.Value :=
  Py.record [
    ("x402Version", .int 1),
    ("scheme", .str (Py.Str.ofString "exact")),
    ("network", .str (Py.Str.ofString "solana-devnet")),
    ("payload", Py.record [("serializedTransaction", .str serializedTx)])]

variable {py : Py.Interpreter} {solders : Solders}

/-- The header is decoded to the envelope it was made of. -/
theorem decode_encodeHeader {depth : Nat} {envelope : Py.Value} {header : Py.Str} (hplain : Plain depth envelope)
    (hdepth : depth ≤ py.maxDepth) (hheader : encodeHeader py envelope = .ok header) :
    decodeXPaymentHeader py header = .ok envelope := by
  obtain ⟨doc, hdoc, hrest⟩ := Outcome.bind_ok hheader
  obtain ⟨raw, hraw, hend⟩ := Outcome.bind_ok hrest
  cases hend
  obtain ⟨hencode, hdecode⟩ := decodeUtf8_dumps hplain hdoc
  obtain rfl := Except.ok.inj (hencode.symm.trans hraw)
  simp only [decodeXPaymentHeader, Py.b64decode_b64encode, Outcome.ok_bind, hdecode, loads_dumps hplain hdepth hdoc]

/-- A header is made of every envelope whose numbers can be printed. -/
theorem encodeHeader_isOk {depth : Nat} {envelope : Py.Value} (hplain : Plain depth envelope)
    (hints : ∀ n ∈ ints envelope, py.Printable n) : ∃ header, encodeHeader py envelope = .ok header := by
  have hdoc : dumps py none envelope = .ok (write py.floatText none 0 envelope) := dumps_ok_iff.mpr ⟨hints, rfl⟩
  obtain ⟨hencode, -⟩ := decodeUtf8_dumps hplain hdoc
  exact ⟨_, by rw [encodeHeader, hdoc, Outcome.ok_bind, hencode, Outcome.ok_bind]⟩

/-- No document is empty. -/
theorem decode_nil (envelope : Py.Value) : decodeXPaymentHeader py [] ≠ .ok envelope := by
  have hloads : ∃ e, decodeXPaymentHeader py [] = .error e := ⟨_, rfl⟩
  obtain ⟨e, he⟩ := hloads
  rw [he]
  exact nofun

/-- Base64 is ASCII. -/
theorem ascii_b64encode (raw : Bytes) : Py.Ascii (Py.b64encode raw) := by
  intro c hc
  obtain ⟨b, hb, rfl⟩ := List.mem_map.mp hc
  exact Base64.encode_ascii raw b hb

/-- The envelope of a payment on devnet is one that is read back. -/
theorem plain_paymentEnvelope (raw : Bytes) : Plain 2 (paymentEnvelope (Py.b64encode raw)) := by
  have htext : Whole (Py.b64encode raw) := by
    obtain ⟨chars, hchars⟩ := (ascii_b64encode raw).exists_chars
    rw [hchars]
    exact whole_ofChars chars
  refine plain_record (by simp) ?_
  simp only [List.forall_mem_cons, List.not_mem_nil, false_implies, implies_true, and_true]
  exact ⟨.int 1, .str (whole_ofString _), .str (whole_ofString _), plain_record (by simp) (by simp [Plain.str htext])⟩

/-- The header of an envelope decodes to it. -/
theorem decodes_encodeHeader {depth : Nat} {envelope : Py.Value} {header : Py.Str} (hplain : Plain depth envelope)
    (hdepth : depth ≤ py.maxDepth) (hheader : encodeHeader py envelope = .ok header) : Decodes py (some header) envelope := by
  have hdecoded := decode_encodeHeader hplain hdepth hheader
  refine ⟨header, rfl, ?_, hdecoded⟩
  rintro rfl
  exact decode_nil _ hdecoded

/-- The first half of the gate reads the transaction a client wrapped. -/
theorem findPayer_encodeHeader {depth : Nat} {entries payload : Profile} {serialized header : Py.Str}
    (hplain : Plain depth (.dict entries)) (hdepth : depth ≤ py.maxDepth) (hpayload : Py.get entries "payload" = .dict payload)
    (hserialized : Py.get payload "serializedTransaction" = .str serialized)
    (hheader : encodeHeader py (.dict entries) = .ok header) :
    findPayer py solders (some header) =
      match extractPayer solders serialized with
      | .error e => .ok (.inl (.unusable e.code e.message))
      | .ok payer => .ok (.inr payer) :=
  findPayer_of_carries (decodes_encodeHeader hplain hdepth hheader) ⟨entries, payload, rfl, hpayload, hserialized⟩

/-- Bytes that are no transaction are malformed. -/
theorem extractPayer_of_payment_none {raw : Bytes} (h : payment solders raw = none) :
    extractPayer solders (Py.b64encode raw) =
      .error ⟨.malformedPayment, "payment payload is not a deserializable Solana transaction"⟩ := by
  have hparse : tryParseTx solders raw = none := by
    unfold payment at h
    unfold tryParseTx
    cases hlegacy : solders.transactionFromBytes raw with
    | some tx => simp [hlegacy] at h
    | none =>
      rw [hlegacy] at h
      simp only [Option.map_eq_none_iff.mp h, Option.bind_eq_bind, Option.bind_none]
  simp only [extractPayer, Py.b64decode_b64encode, hparse]

/-- The gate answers the transaction a client wrapped, whatever else the envelope says: one it cannot read or that nobody signed is
unusable, and any other is judged for its first signer. -/
theorem payment_read_back (py : Py.Interpreter) (solders : Solders) (policy : GatePolicy) (lookupProfile : ProfileLookup)
    (depth : Nat) (entries payload : Profile) (raw : Bytes) (header : Py.Str) (hplain : Plain depth (.dict entries))
    (hdepth : depth ≤ py.maxDepth) (hpayload : Py.get entries "payload" = .dict payload)
    (hserialized : Py.get payload "serializedTransaction" = .str (Py.b64encode raw))
    (hheader : encodeHeader py (.dict entries) = .ok header) :
    applyX402Gate py solders (some header) policy lookupProfile =
      match payment solders raw with
      | none => .ok (.unusable .malformedPayment "payment payload is not a deserializable Solana transaction")
      | some p =>
        if p.Raises then .ok (.unusable .malformedPayment "payment payload is not a deserializable Solana transaction")
        else
          match p.tx.signers with
          | [] => .ok (.unusable .unsignedPayer "no signer present in the payment transaction")
          | key :: _ => judge py policy lookupProfile (solders.str key) := by
  have hfound : findPayer py solders (some header) = _ :=
    findPayer_encodeHeader hplain hdepth hpayload hserialized hheader
  cases hpayment : payment solders raw with
  | none =>
    rw [extractPayer_of_payment_none hpayment] at hfound
    exact applyX402Gate_of_result hfound policy lookupProfile
  | some p =>
    rw [extractPayer_eq (Py.b64decode_b64encode raw) hpayment] at hfound
    by_cases hraises : p.Raises
    · simp only [hraises, if_true] at hfound ⊢
      exact applyX402Gate_of_result hfound policy lookupProfile
    · simp only [hraises, if_false] at hfound ⊢
      cases hsigners : p.tx.signers with
      | nil =>
        rw [hsigners] at hfound
        exact applyX402Gate_of_result hfound policy lookupProfile
      | cons key rest =>
        rw [hsigners] at hfound
        exact applyX402Gate_of_payer hfound policy lookupProfile

namespace PayerExample

open SoldersExample

/-- The header its client makes of the payment. -/
theorem own_encoded : ∃ header, encodeHeader default (paymentEnvelope (Py.b64encode (wire own))) = .ok header :=
  encodeHeader_isOk (plain_paymentEnvelope (wire own)) (by decide)

/-- A payment that reaches the gate in the header its client made. -/
theorem own_payment_read_back : ∃ header, encodeHeader default (paymentEnvelope (Py.b64encode (wire own))) = .ok header ∧
    applyX402Gate default (reading own) (some header) ⟨0, 0⟩ (fun _ => .ok (.dict [])) =
      .ok (.pass ((reading own).str (key 1)) []) := by
  obtain ⟨header, hheader⟩ := own_encoded
  refine ⟨header, hheader, ?_⟩
  rw [payment_read_back default (reading own) ⟨0, 0⟩ (fun _ => .ok (.dict [])) 2 _ _ (wire own) header
    (plain_paymentEnvelope (wire own)) (by decide) rfl rfl hheader, payment_reading]
  simp only [own_signers]
  rfl

/-- The header carries the payment of its payer. -/
theorem own_paidBy : ∃ header, PaidBy default (reading own) (some header) ((reading own).str (key 1)) := by
  obtain ⟨header, hheader⟩ := own_encoded
  refine ⟨header, _, _, decodes_encodeHeader (plain_paymentEnvelope (wire own)) (by decide) hheader, ⟨_, _, rfl, rfl, rfl⟩, ?_⟩
  rw [extractPayer_eq (Py.b64decode_b64encode _) (payment_reading own), own_signers]
  rfl

end PayerExample

end ArsSolana.Python
