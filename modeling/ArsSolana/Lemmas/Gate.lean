import ArsSolana.Python.X402

/-!
# The payment gate, half by half

The first half reads the header down to a payer, the second half judges the payer by its profile.
-/

namespace ArsSolana.Python

variable {py : Py.Interpreter} {solders : Solders} {header : Option Py.Str}

/-! ## The two halves together -/

/-- What the first half raises escapes the gate. -/
theorem applyX402Gate_of_raised {e : Py.Exception} (h : findPayer py solders header = .error e) (policy : GatePolicy)
    (lookupProfile : ProfileLookup) : applyX402Gate py solders header policy lookupProfile = .error e := by
  rw [applyX402Gate, h]
  rfl

/-- A result of the first half is the one of the gate. -/
theorem applyX402Gate_of_result {result : GateResult} (h : findPayer py solders header = .ok (.inl result)) (policy : GatePolicy)
    (lookupProfile : ProfileLookup) : applyX402Gate py solders header policy lookupProfile = .ok result := by
  rw [applyX402Gate, h]
  rfl

/-- A payer of the first half is judged by the second. -/
theorem applyX402Gate_of_payer {payer : String} (h : findPayer py solders header = .ok (.inr payer)) (policy : GatePolicy)
    (lookupProfile : ProfileLookup) :
    applyX402Gate py solders header policy lookupProfile = judge py policy lookupProfile payer := by
  rw [applyX402Gate, h]
  rfl

/-- The gate returns exactly when the first half does and the payer it found, if any, is judged. -/
theorem applyX402Gate_isOk_iff {policy : GatePolicy} {lookupProfile : ProfileLookup} :
    (∃ r, applyX402Gate py solders header policy lookupProfile = .ok r) ↔
      ∃ found, findPayer py solders header = .ok found ∧
        ∀ payer, found = .inr payer → ∃ r, judge py policy lookupProfile payer = .ok r := by
  cases hfound : findPayer py solders header with
  | error e => simp [applyX402Gate_of_raised hfound]
  | ok found =>
    cases found with
    | inl result => simp [applyX402Gate_of_result hfound]
    | inr payer => simp [applyX402Gate_of_payer hfound]

/-! ## The first half -/

/-- A header that does not decode is malformed. -/
theorem code_of_decode_error {text : Py.Str} {e : X402ParseError} (h : decodeXPaymentHeader py text = .error e) :
    e.code = .malformedPayment := by
  unfold decodeXPaymentHeader at h
  simp only at h
  split at h
  · cases h
  · cases h
    rfl

/-- A header that is there and does not decode. -/
theorem findPayer_of_decode_error {text : Py.Str} {e : X402ParseError} (hne : text ≠ [])
    (hd : decodeXPaymentHeader py text = .error e) :
    findPayer py solders (some text) = .ok (.inl (.unusable .malformedPayment e.message)) := by
  rw [← code_of_decode_error hd]
  cases text with
  | nil => exact absurd rfl hne
  | cons c text => simp only [findPayer, hd]

/-- A header that is there and is JSON. -/
theorem findPayer_of_decoded {text : Py.Str} {envelope : Py.Value} (hne : text ≠ [])
    (hd : decodeXPaymentHeader py text = .ok envelope) :
    findPayer py solders (some text) = (do
      let payload ← envelope.get "payload"
      let serialized ← (payload.orElse (.dict [])).get "serializedTransaction"
      match serialized with
      | .str serialized =>
        match extractPayer solders serialized with
        | .error e => .ok (.inl (.unusable e.code e.message))
        | .ok payer => .ok (.inr payer)
      | _ => .ok (.inl (.unusable .malformedPayment "payload.serializedTransaction missing or not a string"))) := by
  cases text with
  | nil => exact absurd rfl hne
  | cons c text =>
    simp only [findPayer]
    rewrite [hd]
    rfl

/-- Only a dictionary has entries to get. -/
theorem get_eq_ok_iff {x v : Py.Value} {key : String} :
    x.get key = .ok v ↔ ∃ entries, x = .dict entries ∧ v = Py.get entries key := by
  cases x <;> simp [Py.Value.get, eq_comm]

/-- The payload the gate goes on with: the one of the envelope, or an empty one for a payload worth nothing. -/
theorem orElse_dict_iff {v : Py.Value} {payload : Profile} :
    v.orElse (.dict []) = .dict payload ↔ v = .dict payload ∨ (v.truthy = false ∧ payload = []) := by
  unfold Py.Value.orElse
  cases hv : v.truthy with
  | true => simp
  | false =>
    simp only [Bool.false_eq_true, if_false, Py.Value.dict.injEq, true_and]
    constructor
    · exact fun h => Or.inr h.symm
    · intro h
      rcases h with rfl | rfl
      · cases payload with
        | nil => rfl
        | cons e payload => cases hv
      · rfl

/-- An envelope that is an object, with the payload the gate goes on with. -/
theorem findPayer_of_payload {text : Py.Str} {entries payload : Profile} (hne : text ≠ [])
    (hd : decodeXPaymentHeader py text = .ok (.dict entries))
    (hp : (Py.get entries "payload").orElse (.dict []) = .dict payload) :
    findPayer py solders (some text) =
      match Py.get payload "serializedTransaction" with
      | .str serialized =>
        match extractPayer solders serialized with
        | .error e => .ok (.inl (.unusable e.code e.message))
        | .ok payer => .ok (.inr payer)
      | _ => .ok (.inl (.unusable .malformedPayment "payload.serializedTransaction missing or not a string")) := by
  rw [findPayer_of_decoded hne hd]
  show (do
    let serialized ← ((Py.get entries "payload").orElse (.dict [])).get "serializedTransaction"
    _) = _
  rw [hp]
  rfl

/-- Without a string under `serializedTransaction` the request is malformed. -/
theorem findPayer_of_not_str {text : Py.Str} {entries payload : Profile} (hne : text ≠ [])
    (hd : decodeXPaymentHeader py text = .ok (.dict entries))
    (hp : (Py.get entries "payload").orElse (.dict []) = .dict payload)
    (hs : ∀ serialized, Py.get payload "serializedTransaction" ≠ .str serialized) :
    findPayer py solders (some text) =
      .ok (.inl (.unusable .malformedPayment "payload.serializedTransaction missing or not a string")) := by
  rw [findPayer_of_payload hne hd hp]
  split
  · rename_i serialized h
    exact absurd h (hs serialized)
  · rfl

/-- When the first half returns on a decoded header, the header had the expected shapes. -/
theorem dict_of_findPayer_ok {text : Py.Str} {envelope : Py.Value} {found : GateResult ⊕ String} (hne : text ≠ [])
    (hd : decodeXPaymentHeader py text = .ok envelope) (h : findPayer py solders (some text) = .ok found) :
    ∃ entries payload, envelope = .dict entries ∧ (Py.get entries "payload").orElse (.dict []) = .dict payload := by
  rw [findPayer_of_decoded hne hd] at h
  obtain ⟨v, hv, hrest⟩ := Outcome.bind_ok h
  obtain ⟨entries, rfl, rfl⟩ := get_eq_ok_iff.mp hv
  obtain ⟨_, hget, -⟩ := Outcome.bind_ok hrest
  obtain ⟨payload, hp, -⟩ := get_eq_ok_iff.mp hget
  exact ⟨entries, payload, rfl, hp⟩

/-- What the gate found a string in is the payload of the envelope: an empty one has no such entry. -/
theorem payload_of_str {entries payload : Profile} {serialized : Py.Str}
    (hp : (Py.get entries "payload").orElse (.dict []) = .dict payload)
    (hs : Py.get payload "serializedTransaction" = .str serialized) : Py.get entries "payload" = .dict payload := by
  rcases orElse_dict_iff.mp hp with hdict | ⟨-, hempty⟩
  · exact hdict
  · subst hempty
    cases hs

/-! ## What the header says -/

variable (py solders header)

/-- The header is there and decodes to this envelope. -/
def Decodes (envelope : Py.Value) : Prop :=
  ∃ text, header = some text ∧ text ≠ [] ∧ decodeXPaymentHeader py text = .ok envelope

/-- The envelope has this string for its `payload.serializedTransaction`. -/
def Carries (envelope : Py.Value) (serialized : Py.Str) : Prop :=
  ∃ entries payload, envelope = .dict entries ∧ Py.get entries "payload" = .dict payload ∧
    Py.get payload "serializedTransaction" = .str serialized

/-- The header carries a transaction of this payer. -/
def PaidBy (payer : String) : Prop :=
  ∃ envelope serialized, Decodes py header envelope ∧ Carries envelope serialized ∧ extractPayer solders serialized = .ok payer

variable {py solders header}

/-- The header of a payment decodes. -/
theorem PaidBy.decodes {payer : String} (h : PaidBy py solders header payer) : ∃ envelope, Decodes py header envelope := by
  obtain ⟨envelope, _, hd, -⟩ := h
  exact ⟨envelope, hd⟩

/-- A header decodes to one envelope. -/
theorem Decodes.unique {envelope envelope' : Py.Value} (h : Decodes py header envelope) (h' : Decodes py header envelope') :
    envelope = envelope' := by
  obtain ⟨text, rfl, -, hd⟩ := h
  obtain ⟨text', hheader, -, hd'⟩ := h'
  cases hheader
  exact Except.ok.inj (hd.symm.trans hd')

/-- A header that carries a transaction. -/
theorem findPayer_of_carries {envelope : Py.Value} {serialized : Py.Str} (hd : Decodes py header envelope)
    (hc : Carries envelope serialized) :
    findPayer py solders header =
      match extractPayer solders serialized with
      | .error e => .ok (.inl (.unusable e.code e.message))
      | .ok payer => .ok (.inr payer) := by
  obtain ⟨text, rfl, hne, hdecode⟩ := hd
  obtain ⟨entries, payload, rfl, hdict, hs⟩ := hc
  rw [findPayer_of_payload hne hdecode (orElse_dict_iff.mpr (Or.inl hdict))]
  simp only [hs]

/-- The payer of a header is found. -/
theorem findPayer_of_paidBy {payer : String} (h : PaidBy py solders header payer) :
    findPayer py solders header = .ok (.inr payer) := by
  obtain ⟨envelope, serialized, hd, hc, hpayer⟩ := h
  rw [findPayer_of_carries hd hc, hpayer]

/-- The payer of a header is judged. -/
theorem applyX402Gate_of_paidBy {payer : String} (h : PaidBy py solders header payer) (policy : GatePolicy)
    (lookupProfile : ProfileLookup) :
    applyX402Gate py solders header policy lookupProfile = judge py policy lookupProfile payer :=
  applyX402Gate_of_payer (findPayer_of_paidBy h) policy lookupProfile

/-- A header carries a transaction of one payer. -/
theorem PaidBy.unique {payer payer' : String} (h : PaidBy py solders header payer) (h' : PaidBy py solders header payer') :
    payer = payer' := by
  have hfound := (findPayer_of_paidBy h).symm.trans (findPayer_of_paidBy h')
  exact Sum.inr.inj (Except.ok.inj hfound)

/-- A header that carries no transaction finds none, when both field accesses return: the request is malformed. -/
theorem findPayer_of_not_carries {envelope : Py.Value} {found : GateResult ⊕ String} (hd : Decodes py header envelope)
    (hc : ∀ serialized, ¬Carries envelope serialized) (h : findPayer py solders header = .ok found) :
    found = .inl (.unusable .malformedPayment "payload.serializedTransaction missing or not a string") := by
  obtain ⟨text, rfl, hne, hdecode⟩ := hd
  obtain ⟨entries, payload, rfl, hp⟩ := dict_of_findPayer_ok hne hdecode h
  have hno : ∀ serialized, Py.get payload "serializedTransaction" ≠ .str serialized :=
    fun serialized hs => hc serialized ⟨entries, payload, rfl, payload_of_str hp hs, hs⟩
  rw [findPayer_of_not_str hne hdecode hp hno] at h
  exact (Except.ok.inj h).symm

/-- Whose payment the first half refuses, and why. -/
inductive Refuses (py : Py.Interpreter) (solders : Solders) (header : Option Py.Str) : UnusableCode → Prop
  | missing : header = none ∨ header = some [] → Refuses py solders header .noPayment
  | header {text : Py.Str} : header = some text → text ≠ [] → (∀ envelope, decodeXPaymentHeader py text ≠ .ok envelope) →
      Refuses py solders header .malformedPayment
  | payload {envelope : Py.Value} : Decodes py header envelope → (∀ serialized, ¬Carries envelope serialized) →
      Refuses py solders header .malformedPayment
  | payer {envelope : Py.Value} {serialized : Py.Str} {e : X402ParseError} : Decodes py header envelope →
      Carries envelope serialized → extractPayer solders serialized = .error e → Refuses py solders header e.code

/-- What the first half returns: the payer of the header, or the refusal of the first stage that fails. -/
theorem findPayer_ok {found : GateResult ⊕ String} (h : findPayer py solders header = .ok found) :
    (∃ payer, found = .inr payer ∧ PaidBy py solders header payer) ∨
      ∃ code message, found = .inl (.unusable code message) ∧ Refuses py solders header code := by
  cases header with
  | none =>
    cases h
    exact Or.inr ⟨_, _, rfl, .missing (Or.inl rfl)⟩
  | some text =>
    by_cases hne : text = []
    · subst hne
      cases h
      exact Or.inr ⟨_, _, rfl, .missing (Or.inr rfl)⟩
    cases hdecode : decodeXPaymentHeader py text with
    | error e =>
      rw [findPayer_of_decode_error hne hdecode] at h
      cases h
      refine Or.inr ⟨_, _, rfl, .header rfl hne ?_⟩
      rw [hdecode]
      rintro envelope ⟨⟩
    | ok envelope =>
      have hd : Decodes py (some text) envelope := ⟨text, rfl, hne, hdecode⟩
      by_cases hc : ∃ serialized, Carries envelope serialized
      · obtain ⟨serialized, hc⟩ := hc
        rw [findPayer_of_carries hd hc] at h
        cases hpayer : extractPayer solders serialized with
        | ok payer =>
          rw [hpayer] at h
          cases h
          exact Or.inl ⟨payer, rfl, envelope, serialized, hd, hc, hpayer⟩
        | error e =>
          rw [hpayer] at h
          cases h
          exact Or.inr ⟨_, _, rfl, .payer hd hc hpayer⟩
      · have hno := not_exists.mp hc
        exact Or.inr ⟨_, _, findPayer_of_not_carries hd hno h, .payload hd hno⟩

/-- What the first half returns of a payment it refuses is the refusal. -/
theorem findPayer_of_refuses {code : UnusableCode} {found : GateResult ⊕ String} (hrefuses : Refuses py solders header code)
    (h : findPayer py solders header = .ok found) : ∃ message, found = .inl (.unusable code message) := by
  cases hrefuses with
  | missing hmissing =>
    rcases hmissing with rfl | rfl <;> cases h <;> exact ⟨_, rfl⟩
  | header hheader hne hundecoded =>
    subst hheader
    cases hdecode : decodeXPaymentHeader py _ with
    | ok envelope => exact absurd hdecode (hundecoded envelope)
    | error e =>
      rw [findPayer_of_decode_error hne hdecode] at h
      cases h
      exact ⟨_, rfl⟩
  | payload hd hno => exact ⟨_, findPayer_of_not_carries hd hno h⟩
  | payer hd hc hpayer =>
    rw [findPayer_of_carries hd hc, hpayer] at h
    cases h
    exact ⟨_, rfl⟩

end ArsSolana.Python
