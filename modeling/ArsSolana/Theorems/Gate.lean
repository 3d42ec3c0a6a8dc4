import ArsSolana.Lemmas.Gate

/-!
# What escapes the payment gate

The gate answers every request with a verdict as long as what it reads has the shapes it expects. Four steps stand outside every
`try`: the field access on the envelope, the one on the payload, the text of what the lookup raised, and the integers of the
profile. The results say exactly which requests reach one of them with a value it does not take.
-/

namespace ArsSolana.Python

variable (py : Py.Interpreter) (solders : Solders)

/-! ## The profile -/

/-- A comparison that fails is reported with both numbers, so both must have a decimal text. -/
def Reportable (value minimum : Int) : Prop := value < minimum → py.Printable value ∧ py.Printable minimum

/-- The numbers of a profile, as far as the gate reads them: they are integers or convert to such, and what is reported has a
decimal text. -/
def NumbersRead (policy : GatePolicy) (profile : Profile) : Prop :=
  ∃ score, py.toInt ((Py.get profile "score").orElse (.int 0)) = .ok score ∧ Reportable py score policy.minScore ∧
    (policy.minScore ≤ score →
      ∃ bond, py.toInt ((Py.get profile "bond_atomic").orElse (.int 0)) = .ok bond ∧
        Reportable py bond policy.minBondAtomic)

/-- A report of two numbers is written exactly when both have a text. -/
theorem report_isOk_iff {value minimum : Int} (result : String → String → GateResult) :
    (∃ r, (do
      let valueText ← py.strOfInt value
      let minText ← py.strOfInt minimum
      Except.ok (result valueText minText) : Except Py.Exception GateResult) = .ok r) ↔
      py.Printable value ∧ py.Printable minimum := by
  rw [← py.strOfInt_isOk_iff, ← py.strOfInt_isOk_iff, Outcome.bind_isOk_iff]
  constructor
  · intro h
    obtain ⟨valueText, hvalue, hrest⟩ := h
    obtain ⟨minText, hmin, -⟩ := Outcome.bind_isOk_iff.mp hrest
    exact ⟨⟨valueText, hvalue⟩, minText, hmin⟩
  · intro h
    obtain ⟨⟨valueText, hvalue⟩, minText, hmin⟩ := h
    exact ⟨valueText, hvalue, Outcome.bind_isOk_iff.mpr ⟨minText, hmin, Outcome.ok_isOk _⟩⟩

/-- A profile is judged exactly when it is frozen or its numbers can be read. -/
theorem judgeProfile_isOk_iff (policy : GatePolicy) (payer : String) (profile : Profile) :
    (∃ r, judgeProfile py policy payer profile = .ok r) ↔
      ((Py.get profile "frozen").truthy = false → NumbersRead py policy profile) := by
  unfold judgeProfile
  cases hf : (Py.get profile "frozen").truthy with
  | true => simp
  | false =>
    simp only [Bool.false_eq_true, if_false, true_implies, NumbersRead]
    rw [Outcome.bind_isOk_iff]
    refine exists_congr fun score => and_congr_right fun _ => ?_
    by_cases hs : score < policy.minScore
    · have hnot : ¬policy.minScore ≤ score := by omega
      simp only [Reportable, hs, if_true, hnot, false_implies, and_true, true_implies]
      exact report_isOk_iff py fun s m => .fail .scoreBelowMin payer s!"agent score {s} < required {m}"
    · have hle : policy.minScore ≤ score := by omega
      simp only [Reportable, hs, if_false, hle, false_implies, true_and, true_implies]
      rw [Outcome.bind_isOk_iff]
      refine exists_congr fun bond => and_congr_right fun _ => ?_
      by_cases hb : bond < policy.minBondAtomic
      · simp only [hb, if_true, true_implies]
        exact report_isOk_iff py fun s m => .fail .bondBelowMin payer s!"agent bond {s} < required {m}"
      · simp only [hb, if_false, false_implies, iff_true]
        exact Outcome.ok_isOk _

/-- What the gate expects of a lookup: an exception with a text, no profile, or a profile that is frozen or has numbers it can
read. -/
inductive Answerable (policy : GatePolicy) : Except LookupException Py.Value → Prop
  | raised {e : LookupException} {text : String} : e.text = .ok text → Answerable policy (.error e)
  | unregistered : Answerable policy (.ok .none)
  | profile {profile : Profile} : ((Py.get profile "frozen").truthy = false → NumbersRead py policy profile) →
      Answerable policy (.ok (.dict profile))

/-- The second half returns exactly when the lookup is as expected. -/
theorem judge_isOk_iff (policy : GatePolicy) (lookupProfile : ProfileLookup) (payer : String) :
    (∃ r, judge py policy lookupProfile payer = .ok r) ↔ Answerable py policy (lookupProfile payer) := by
  unfold judge
  generalize lookupProfile payer = answer
  constructor
  · intro h
    split at h
    · obtain ⟨text, htext, -⟩ := Outcome.bind_isOk_iff.mp h
      exact .raised htext
    · exact .unregistered
    · exact .profile ((judgeProfile_isOk_iff py policy payer _).mp h)
    · obtain ⟨_, ⟨⟩⟩ := h
  · intro h
    cases h with
    | raised htext => exact Outcome.bind_isOk_iff.mpr ⟨_, htext, Outcome.ok_isOk _⟩
    | unregistered => exact Outcome.ok_isOk _
    | profile hread => exact (judgeProfile_isOk_iff py policy payer _).mpr hread

/-! ## The request -/

/-- No exception escapes, and an envelope of the wrong shape is refused as malformed. -/
def Contained (header : Option Py.Str) (outcome : Except Py.Exception GateResult) : Prop :=
  (∃ r, outcome = .ok r) ∧
    ∀ envelope, Decodes py header envelope → (∀ serialized, ¬Carries envelope serialized) →
      ∃ message, outcome = .ok (.unusable .malformedPayment message)

/-- What the gate expects of a header that is JSON: an object, whose payload is an object or worth nothing; and of the lookup of the
payer it names. -/
def Expected (header : Option Py.Str) (policy : GatePolicy) (lookupProfile : ProfileLookup) : Prop :=
  ∀ envelope, Decodes py header envelope →
    ∃ entries, envelope = .dict entries ∧
      ((Py.get entries "payload").truthy → ∃ payload, Py.get entries "payload" = .dict payload) ∧
      ∀ payer, PaidBy py solders header payer → Answerable py policy (lookupProfile payer)

variable {py solders}

/-- A payload that is an object or worth nothing gives the gate an object to go on with. -/
theorem exists_payload {entries : Profile}
    (h : (Py.get entries "payload").truthy → ∃ payload, Py.get entries "payload" = .dict payload) :
    ∃ payload, (Py.get entries "payload").orElse (.dict []) = .dict payload := by
  cases htruthy : (Py.get entries "payload").truthy with
  | true =>
    obtain ⟨payload, hdict⟩ := h htruthy
    exact ⟨payload, orElse_dict_iff.mpr (Or.inl hdict)⟩
  | false => exact ⟨[], orElse_dict_iff.mpr (Or.inr ⟨htruthy, rfl⟩)⟩

/-- The first half returns on a header with the expected shapes. -/
theorem findPayer_isOk_of_expected {policy : GatePolicy} {lookupProfile : ProfileLookup} {header : Option Py.Str}
    (h : Expected py solders header policy lookupProfile) : ∃ found, findPayer py solders header = .ok found := by
  cases header with
  | none => exact ⟨_, rfl⟩
  | some text =>
    by_cases hne : text = []
    · subst hne
      exact ⟨_, rfl⟩
    cases hdecode : decodeXPaymentHeader py text with
    | error e => exact ⟨_, findPayer_of_decode_error hne hdecode⟩
    | ok envelope =>
      obtain ⟨entries, rfl, hobject, -⟩ := h envelope ⟨text, rfl, hne, hdecode⟩
      obtain ⟨payload, hp⟩ := exists_payload hobject
      rw [findPayer_of_payload hne hdecode hp]
      split
      · split
        · exact ⟨_, rfl⟩
        · exact ⟨_, rfl⟩
      · exact ⟨_, rfl⟩

/-- A request that is contained was as expected. -/
theorem expected_of_contained {header : Option Py.Str} {policy : GatePolicy} {lookupProfile : ProfileLookup}
    (h : Contained py header (applyX402Gate py solders header policy lookupProfile)) :
    Expected py solders header policy lookupProfile := by
  rintro envelope ⟨text, rfl, hne, hdecode⟩
  obtain ⟨found, hfound, hjudged⟩ := applyX402Gate_isOk_iff.mp h.1
  obtain ⟨entries, payload, rfl, hp⟩ := dict_of_findPayer_ok hne hdecode hfound
  refine ⟨entries, rfl, ?object, ?lookup⟩
  case object =>
    intro htruthy
    rcases orElse_dict_iff.mp hp with hdict | ⟨hfalse, -⟩
    · exact ⟨payload, hdict⟩
    · rw [hfalse] at htruthy
      cases htruthy
  case lookup =>
    intro payer hpaid
    have heq := hfound.symm.trans (findPayer_of_paidBy hpaid)
    exact (judge_isOk_iff py policy lookupProfile payer).mp (hjudged payer (Except.ok.inj heq))

/-- A request that is as expected is contained. -/
theorem contained_of_expected {header : Option Py.Str} {policy : GatePolicy} {lookupProfile : ProfileLookup}
    (h : Expected py solders header policy lookupProfile) :
    Contained py header (applyX402Gate py solders header policy lookupProfile) := by
  obtain ⟨found, hfound⟩ := findPayer_isOk_of_expected h
  refine ⟨applyX402Gate_isOk_iff.mpr ⟨found, hfound, ?judged⟩, ?malformed⟩
  case judged =>
    rintro payer rfl
    rcases findPayer_ok hfound with ⟨payer', heq, hpaid⟩ | ⟨_, _, heq, -⟩
    · cases heq
      obtain ⟨envelope, hd⟩ := hpaid.decodes
      obtain ⟨_, -, -, hlookup⟩ := h envelope hd
      exact (judge_isOk_iff py policy lookupProfile payer).mpr (hlookup payer hpaid)
    · cases heq
  case malformed =>
    intro envelope hd hno
    have hrefused := findPayer_of_not_carries hd hno hfound
    subst hrefused
    exact ⟨_, applyX402Gate_of_result hfound policy lookupProfile⟩

/-- The gate contains a request exactly when the request is as expected: no exception escapes, and the wrong shape is refused as
malformed. -/
theorem gate_contained_iff (py : Py.Interpreter) (solders : Solders) (header : Option Py.Str) (policy : GatePolicy)
    (lookupProfile : ProfileLookup) :
    Contained py header (applyX402Gate py solders header policy lookupProfile) ↔
      Expected py solders header policy lookupProfile := by
  constructor
  · exact expected_of_contained
  · exact contained_of_expected

/-! ## A request that raises -/

namespace GateExample

open SoldersExample

/-- The base64 of an empty JSON array. -/
def arrayHeader : Py.Str := Py.Str.ofString "W10="

/-- It decodes to the array. -/
theorem decode_arrayHeader : decodeXPaymentHeader default arrayHeader = .ok (.list []) := by
  rfl

/-- An array for an envelope raises `AttributeError` out of the gate. -/
theorem array_envelope_escapes (policy : GatePolicy) (lookupProfile : ProfileLookup) :
    applyX402Gate default texts (some arrayHeader) policy lookupProfile =
      .error ⟨.attributeError, "'list' object has no attribute 'get'"⟩ := by
  refine applyX402Gate_of_raised ?_ policy lookupProfile
  rw [findPayer_of_decoded (by decide) decode_arrayHeader]
  rfl

/-- So the gate does not contain every request. -/
theorem gate_not_contained :
    ¬∀ (py : Py.Interpreter) (solders : Solders) (header : Option Py.Str) (policy : GatePolicy)
      (lookupProfile : ProfileLookup), Contained py header (applyX402Gate py solders header policy lookupProfile) := by
  intro h
  obtain ⟨⟨r, hr⟩, -⟩ := h default texts (some arrayHeader) ⟨0, 0⟩ fun _ => .ok .none
  rw [array_envelope_escapes] at hr
  cases hr

end GateExample

end ArsSolana.Python
