import ArsSolana.Python.HttpLookup
import ArsSolana.Theorems.HttpTransport
import ArsSolana.Theorems.Verdict

/-!
# The payment gate over the hosted indexer

What the indexer replied decides, once the payer is known: how each reply is taken, and which HTTP status the request gets.
-/

namespace ArsSolana.Python

variable {py : Py.Interpreter} {solders : Solders} {header : Option Py.Str} {policy : GatePolicy} {payer : String}

/-! ## What escapes for a profile -/

/-- No conversion to an integer misses a method. -/
theorem toInt_error {x : Py.Value} {e : Py.Exception} (h : py.toInt x = .error e) : e.type ≠ .attributeError := by
  cases x with
  | bool b => cases h
  | int n => cases h
  | float x =>
    cases x with
    | finite negative mantissa exponent => cases h
    | _ =>
      cases h
      intro htype
      cases htype
  | str s =>
    simp only [Py.Interpreter.toInt, Py.Interpreter.intOfStr] at h
    split at h
    · cases h
      intro htype
      cases htype
    · split at h
      · cases h
      · cases h
        intro htype
        cases htype
  | _ =>
    cases h
    intro htype
    cases htype

/-- A report of two numbers fails for the text of one of them. -/
theorem report_error {value minimum : Int} {result : String → String → GateResult} {e : Py.Exception}
    (h : (do
      let valueText ← py.strOfInt value
      let minText ← py.strOfInt minimum
      Except.ok (result valueText minText) : Except Py.Exception GateResult) = .error e) : e.type = .valueError := by
  rcases Outcome.bind_error h with hvalue | ⟨valueText, -, hrest⟩
  · exact Py.Interpreter.strOfInt_error py hvalue
  · rcases Outcome.bind_error hrest with hmin | ⟨_, -, hend⟩
    · exact Py.Interpreter.strOfInt_error py hmin
    · cases hend

/-- What escapes for a profile comes from its numbers. -/
theorem judgeProfile_error {profile : Profile} {e : Py.Exception} (h : judgeProfile py policy payer profile = .error e) :
    e.type ≠ .attributeError := by
  have hvalue : ∀ {e : Py.Exception}, e.type = .valueError → e.type ≠ .attributeError := by
    intro e htype
    rw [htype]
    intro h
    cases h
  unfold judgeProfile at h
  split at h
  · cases h
  · rcases Outcome.bind_error h with hscore | ⟨score, -, hrest⟩
    · exact toInt_error hscore
    split at hrest
    · exact hvalue (report_error hrest)
    rcases Outcome.bind_error hrest with hbond | ⟨bond, -, hend⟩
    · exact toInt_error hbond
    split at hend
    · exact hvalue (report_error hend)
    · cases hend

/-! ## What the indexer replied -/

/-- There was no reply, or none that says anything of the agent. -/
inductive Unavailable (answer : Except Py.Exception Reply) : Prop
  | noReply {e : Py.Exception} : answer = .error e → Unavailable answer
  | status {r : Reply} : answer = .ok r → 400 ≤ r.statusCode → r.statusCode < 600 → r.statusCode ≠ 404 → Unavailable answer
  | body {r : Reply} {e : Py.Exception} : answer = .ok r → ¬(400 ≤ r.statusCode ∧ r.statusCode < 600) → r.json = .error e →
      Unavailable answer

/-- The reply says that there is no such agent. -/
inductive Unregistered (answer : Except Py.Exception Reply) : Prop
  | notFound {r : Reply} : answer = .ok r → r.statusCode = 404 → Unregistered answer
  | noAgent {r : Reply} {v : Py.Value} : answer = .ok r → ¬(400 ≤ r.statusCode ∧ r.statusCode < 600) → r.json = .ok v →
      (∀ entries, v = .dict entries → Py.get entries "agent" = .none) → Unregistered answer

/-- The reply has this value for the agent. -/
inductive Registered (agent : Py.Value) (answer : Except Py.Exception Reply) : Prop
  | found {r : Reply} {entries : List (Py.Str × Py.Value)} : answer = .ok r →
      ¬(400 ≤ r.statusCode ∧ r.statusCode < 600) → r.json = .ok (.dict entries) → Py.get entries "agent" = agent →
      agent ≠ .none → Registered agent answer

/-- A reply that is no failure raises nothing. -/
theorem Reply.raiseForStatus_ok {r : Reply} (h : ¬(400 ≤ r.statusCode ∧ r.statusCode < 600)) : r.raiseForStatus = .ok () := by
  cases hraised : r.raiseForStatus with
  | ok _ => rfl
  | error e => exact absurd (r.raises_iff.mp ⟨e, hraised⟩) h

section Lookup

variable {get : Indexer} {apiBase : Py.Str}

/-- A lookup without a usable reply raises. -/
theorem lookup_of_unavailable (h : Unavailable (get (agentUrl apiBase payer))) :
    ∃ e : Py.Exception, httpProfileLookup get apiBase payer = .error (.ofRequests e) := by
  unfold httpProfileLookup
  cases h with
  | noReply hget => exact ⟨_, by rw [hget]; rfl⟩
  | @status r hget hlow hhigh hfound =>
    obtain ⟨e, he⟩ := r.raises_iff.mpr ⟨hlow, hhigh⟩
    exact ⟨e, by simp only [hget, Outcome.ok_bind, hfound, if_false, he, Outcome.error_bind]; rfl⟩
  | @body r e hget hfine hjson =>
    have hfound : r.statusCode ≠ 404 := by omega
    refine ⟨e, ?_⟩
    simp only [hget, Outcome.ok_bind, hfound, if_false, r.raiseForStatus_ok hfine, hjson, Outcome.error_bind]
    rfl

/-- A reply that knows no such agent is no profile. -/
theorem lookup_of_unregistered (h : Unregistered (get (agentUrl apiBase payer))) :
    httpProfileLookup get apiBase payer = .ok .none := by
  unfold httpProfileLookup
  cases h with
  | notFound hget hfound =>
    simp only [hget, Outcome.ok_bind, hfound, if_true]
    rfl
  | @noAgent r v hget hfine hjson hnone =>
    have hfound : r.statusCode ≠ 404 := by omega
    simp only [hget, Outcome.ok_bind, hfound, if_false, r.raiseForStatus_ok hfine, hjson]
    split
    · rw [hnone _ rfl]
      rfl
    · rfl

/-- What a reply says of the agent is what the lookup returns. -/
theorem lookup_of_registered {agent : Py.Value} (h : Registered agent (get (agentUrl apiBase payer))) :
    httpProfileLookup get apiBase payer = .ok agent ∧ agent ≠ .none := by
  unfold httpProfileLookup
  cases h with
  | @found r entries hget hfine hjson hagent hne =>
    have hfound : r.statusCode ≠ 404 := by omega
    simp only [hget, Outcome.ok_bind, hfound, if_false, r.raiseForStatus_ok hfine, hjson, hagent]
    exact ⟨rfl, hne⟩

/-- Every reply says one of the three. -/
theorem reply_cases (answer : Except Py.Exception Reply) :
    Unavailable answer ∨ Unregistered answer ∨ ∃ agent, Registered agent answer := by
  cases answer with
  | error e => exact Or.inl (.noReply rfl)
  | ok r =>
    by_cases hfound : r.statusCode = 404
    · exact Or.inr (Or.inl (.notFound rfl hfound))
    by_cases hfails : 400 ≤ r.statusCode ∧ r.statusCode < 600
    · exact Or.inl (.status rfl hfails.1 hfails.2 hfound)
    cases hjson : r.json with
    | error e => exact Or.inl (.body rfl hfails hjson)
    | ok v =>
      cases v with
      | dict entries =>
        by_cases hnone : Py.get entries "agent" = .none
        · refine Or.inr (Or.inl (.noAgent rfl hfails hjson ?_))
          rintro _ ⟨⟩
          exact hnone
        · exact Or.inr (Or.inr ⟨_, .found rfl hfails hjson rfl hnone⟩)
      | _ => exact Or.inr (Or.inl (.noAgent rfl hfails hjson nofun))

/-- The lookup raises exactly when the indexer gave no usable reply. -/
theorem unavailable_iff_lookup :
    Unavailable (get (agentUrl apiBase payer)) ↔ ∃ e, httpProfileLookup get apiBase payer = .error e := by
  constructor
  · intro h
    obtain ⟨e, he⟩ := lookup_of_unavailable h
    exact ⟨_, he⟩
  · rintro ⟨e, he⟩
    rcases reply_cases (get (agentUrl apiBase payer)) with h | h | ⟨agent, h⟩
    · exact h
    · rw [lookup_of_unregistered h] at he
      cases he
    · rw [(lookup_of_registered h).1] at he
      cases he

/-- It returns `None` exactly when the indexer knows no such agent. -/
theorem unregistered_iff_lookup :
    Unregistered (get (agentUrl apiBase payer)) ↔ httpProfileLookup get apiBase payer = .ok .none := by
  constructor
  · exact lookup_of_unregistered
  · intro hlookup
    rcases reply_cases (get (agentUrl apiBase payer)) with h | h | ⟨agent, h⟩
    · obtain ⟨e, he⟩ := lookup_of_unavailable h
      rw [he] at hlookup
      cases hlookup
    · exact h
    · obtain ⟨hagent, hne⟩ := lookup_of_registered h
      exact absurd (Except.ok.inj (hagent.symm.trans hlookup)) hne

/-- It returns another value exactly when the indexer has that for the agent. -/
theorem registered_iff_lookup (agent : Py.Value) (hne : agent ≠ .none) :
    Registered agent (get (agentUrl apiBase payer)) ↔ httpProfileLookup get apiBase payer = .ok agent := by
  constructor
  · exact fun h => (lookup_of_registered h).1
  · intro hlookup
    rcases reply_cases (get (agentUrl apiBase payer)) with h | h | ⟨agent', h⟩
    · obtain ⟨e, he⟩ := lookup_of_unavailable h
      rw [he] at hlookup
      cases hlookup
    · rw [lookup_of_unregistered h] at hlookup
      exact absurd (Except.ok.inj hlookup).symm hne
    · rwa [Except.ok.inj ((lookup_of_registered h).1.symm.trans hlookup)] at h

end Lookup

/-! ## The gate -/

/-- No payment, or none that can be used, is answered 402. -/
theorem statusForCode_unusable (code : UnusableCode) : statusForCode code.text = 402 := by
  cases code <;> decide

/-- A failed lookup is a bad gateway, every other failure is forbidden. -/
theorem statusForCode_fail (code : FailCode) : statusForCode code.text = if code = .lookupFailed then 502 else 403 := by
  cases code <;> decide

section Hosted

variable {get : Indexer} {apiBase : Py.Str}

/-- The payer of a header is judged by what the indexer says. -/
theorem hostedGate_of_paidBy (hpaid : PaidBy py solders header payer) :
    hostedGate py solders header policy get apiBase = judge py policy (httpProfileLookup get apiBase) payer :=
  applyX402Gate_of_paidBy hpaid policy (httpProfileLookup get apiBase)

/-- 502 exactly when the indexer said nothing of the agent. -/
theorem unavailable_iff (hpaid : PaidBy py solders header payer) :
    Unavailable (get (agentUrl apiBase payer)) ↔
      ∃ r code, hostedGate py solders header policy get apiBase = .ok r ∧ r.code = some code ∧ statusForCode code = 502 := by
  rw [hostedGate_of_paidBy hpaid]
  constructor
  · intro h
    obtain ⟨e, he⟩ := lookup_of_unavailable h
    exact ⟨_, _, by rw [judge, he]; rfl, rfl, statusForCode_fail .lookupFailed⟩
  · rintro ⟨r, code, hjudge, hcode, hstatus⟩
    have hfails : ∀ failed : FailCode, failed ≠ .lookupFailed → statusForCode failed.text ≠ 502 := by
      intro failed hne
      rw [statusForCode_fail, if_neg hne]
      decide
    cases judgement_of_judge hjudge with
    | lookup hlookup => exact unavailable_iff_lookup.mpr ⟨_, hlookup⟩
    | pass => cases hcode
    | registration | frozen | score | bond =>
      cases hcode
      exact absurd hstatus (hfails _ (by decide))

/-- Not bonded exactly when the indexer knows no such agent. -/
theorem unregistered_iff (hpaid : PaidBy py solders header payer) :
    Unregistered (get (agentUrl apiBase payer)) ↔
      ∃ message, hostedGate py solders header policy get apiBase = .ok (.fail .notBonded payer message) := by
  rw [hostedGate_of_paidBy hpaid]
  constructor
  · intro h
    exact ⟨_, by rw [judge, lookup_of_unregistered h]⟩
  · rintro ⟨message, hjudge⟩
    cases judgement_of_judge hjudge with
    | registration hlookup => exact unregistered_iff_lookup.mpr hlookup

/-- A pass is for a payer of whom the indexer has a profile that meets the policy. -/
theorem passed_iff (hpaid : PaidBy py solders header payer) {payer' : String} {profile : Profile} :
    hostedGate py solders header policy get apiBase = .ok (.pass payer' profile) ↔
      payer' = payer ∧ Registered (.dict profile) (get (agentUrl apiBase payer)) ∧ (Py.get profile "frozen").truthy = false ∧
        MeetsScore py policy profile ∧ MeetsBond py policy profile := by
  rw [hostedGate_of_paidBy hpaid, registered_iff_lookup (.dict profile) (by intro h; cases h)]
  constructor
  · intro hjudge
    cases judgement_of_judge hjudge with
    | pass hstanding hscore hbond => exact ⟨rfl, hstanding.1, hstanding.2, hscore, hbond⟩
  · rintro ⟨rfl, hlookup, hfrozen, hscore, hbond⟩
    exact judge_of_passes ⟨hlookup, hfrozen⟩ hscore hbond

/-- A missing method escapes exactly for an agent that is no object. -/
theorem escapes_iff (hpaid : PaidBy py solders header payer) :
    (∃ agent, Registered agent (get (agentUrl apiBase payer)) ∧ ∀ profile, agent ≠ .dict profile) ↔
      ∃ e, hostedGate py solders header policy get apiBase = .error e ∧ e.type = .attributeError := by
  rw [hostedGate_of_paidBy hpaid]
  constructor
  · rintro ⟨agent, h, hagent⟩
    obtain ⟨hlookup, hne⟩ := lookup_of_registered h
    refine ⟨⟨.attributeError, s!"'{agent.typeName}' object has no attribute 'get'"⟩, ?_, rfl⟩
    rw [judge, hlookup]
    cases agent with
    | none => exact absurd rfl hne
    | dict profile => exact absurd rfl (hagent profile)
    | _ => rfl
  · rintro ⟨e, hjudge, htype⟩
    rcases reply_cases (get (agentUrl apiBase payer)) with h | h | ⟨agent, h⟩
    · obtain ⟨raised, hraised⟩ := lookup_of_unavailable h
      rw [judge, hraised] at hjudge
      cases hjudge
    · rw [judge, lookup_of_unregistered h] at hjudge
      cases hjudge
    · refine ⟨agent, h, ?_⟩
      rintro profile rfl
      rw [judge, (lookup_of_registered h).1] at hjudge
      exact judgeProfile_error hjudge htype

/-- The gate asks the indexer for the payer's own profile only. -/
theorem hostedGate_congr {get' : Indexer} {apiBase' : Py.Str}
    (h : ∀ payer, PaidBy py solders header payer → get (agentUrl apiBase payer) = get' (agentUrl apiBase' payer)) :
    hostedGate py solders header policy get apiBase = hostedGate py solders header policy get' apiBase' := by
  refine gate_congr fun payer hpaid => ?_
  simp only [httpProfileLookup, h payer hpaid]

/-- 402 exactly when no payer is known. -/
theorem unpaid_iff {r : GateResult} {code : String} (hgate : hostedGate py solders header policy get apiBase = .ok r)
    (hcode : r.code = some code) : statusForCode code = 402 ↔ ∀ payer, ¬PaidBy py solders header payer := by
  rcases gate_cases hgate with ⟨unusable, message, rfl, -, hfound⟩ | ⟨payer, hpaid, hjudgement⟩
  · cases hcode
    refine ⟨fun _ payer hpaid => ?_, fun _ => statusForCode_unusable unusable⟩
    rw [findPayer_of_paidBy hpaid] at hfound
    cases hfound
  · have hfails : ∃ failed : FailCode, code = failed.text := by
      cases hjudgement with
      | pass => cases hcode
      | lookup | registration | frozen | score | bond => exact ⟨_, (Option.some.inj hcode).symm⟩
    obtain ⟨failed, rfl⟩ := hfails
    have hnot : statusForCode failed.text ≠ 402 := by
      rw [statusForCode_fail]
      split <;> decide
    exact ⟨fun h => absurd h hnot, fun h => absurd hpaid (h payer)⟩

end Hosted

/-- The gate over the hosted indexer. Only the reply for the payer's own profile counts. A request without a payer is answered 402.
Of a payer: 502 exactly when the indexer gave no usable reply; not bonded exactly when it knows no such agent; a pass exactly when
it has a profile that meets the policy; and an agent that is no object escapes as a missing method, and nothing else does. -/
theorem hosted_gate (py : Py.Interpreter) (solders : Solders) (header : Option Py.Str) (policy : GatePolicy) (get : Indexer)
    (apiBase : Py.Str) :
    (∀ get' apiBase', (∀ payer, PaidBy py solders header payer →
        get (agentUrl apiBase payer) = get' (agentUrl apiBase' payer)) →
      hostedGate py solders header policy get apiBase = hostedGate py solders header policy get' apiBase') ∧
    (∀ r code, hostedGate py solders header policy get apiBase = .ok r → r.code = some code →
      (statusForCode code = 402 ↔ ∀ payer, ¬PaidBy py solders header payer)) ∧
    ∀ payer, PaidBy py solders header payer →
      (Unavailable (get (agentUrl apiBase payer)) ↔ ∃ r code, hostedGate py solders header policy get apiBase = .ok r ∧
        r.code = some code ∧ statusForCode code = 502) ∧
      (Unregistered (get (agentUrl apiBase payer)) ↔
        ∃ message, hostedGate py solders header policy get apiBase = .ok (.fail .notBonded payer message)) ∧
      (∀ payer' profile, hostedGate py solders header policy get apiBase = .ok (.pass payer' profile) ↔
        payer' = payer ∧ Registered (.dict profile) (get (agentUrl apiBase payer)) ∧
          (Py.get profile "frozen").truthy = false ∧ MeetsScore py policy profile ∧ MeetsBond py policy profile) ∧
      ((∃ agent, Registered agent (get (agentUrl apiBase payer)) ∧ ∀ profile, agent ≠ .dict profile) ↔
        ∃ e, hostedGate py solders header policy get apiBase = .error e ∧ e.type = .attributeError) :=
  ⟨fun _ _ => hostedGate_congr, fun _ _ => unpaid_iff, fun _ hpaid =>
    ⟨unavailable_iff hpaid, unregistered_iff hpaid, fun _ _ => passed_iff hpaid, escapes_iff hpaid⟩⟩

/-! ## A payment of which the indexer knows the payer -/

namespace PayerExample

open SoldersExample

/-- `raise_for_status` of `requests`. -/
def raiseForStatus (statusCode : Nat) (reason url : String) : Except Py.Exception Unit :=
  if 400 ≤ statusCode ∧ statusCode < 500 then
    .error ⟨.other "HTTPError", s!"{statusCode} Client Error: {reason} for url: {url}"⟩
  else if 500 ≤ statusCode ∧ statusCode < 600 then
    .error ⟨.other "HTTPError", s!"{statusCode} Server Error: {reason} for url: {url}"⟩
  else .ok ()

/-- It raises for the failures. -/
theorem raiseForStatus_raises_iff (statusCode : Nat) (reason url : String) :
    (∃ e, raiseForStatus statusCode reason url = .error e) ↔ 400 ≤ statusCode ∧ statusCode < 600 := by
  unfold raiseForStatus
  split
  · exact iff_of_true ⟨_, rfl⟩ (by omega)
  · split
    · exact iff_of_true ⟨_, rfl⟩ (by omega)
    · refine iff_of_false ?_ (by omega)
      rintro ⟨_, ⟨⟩⟩

/-- An indexer that knows every agent by this profile. -/
def knows (profile : Profile) : Indexer := fun _ =>
  .ok {
    HttpExample.answer (Py.record [("agent", .dict profile)]) with
    raiseForStatus := raiseForStatus 200 "OK" "https://api.telaro.xyz"
    raises_iff := raiseForStatus_raises_iff 200 "OK" "https://api.telaro.xyz" }

/-- An indexer that is down. -/
def down : Indexer := fun _ =>
  .ok {
    statusCode := 503
    json := .ok .none
    threeDigits := by decide
    raiseForStatus := raiseForStatus 503 "Service Unavailable" "https://api.telaro.xyz"
    raises_iff := raiseForStatus_raises_iff 503 "Service Unavailable" "https://api.telaro.xyz" }

/-- The payer passes with the profile the indexer has, and is answered 502 while the indexer is down. -/
theorem own_payer_hosted : ∃ header,
    hostedGate default (reading own) (some header) ⟨0, 700⟩ (knows scored) [] =
      .ok (.pass ((reading own).str (key 1)) scored) ∧
    ∃ r code, hostedGate default (reading own) (some header) ⟨0, 700⟩ down [] = .ok r ∧ r.code = some code ∧
      statusForCode code = 502 := by
  obtain ⟨header, hpaid⟩ := own_paidBy
  obtain ⟨-, -, hknown⟩ := hosted_gate default (reading own) (some header) ⟨0, 700⟩ (knows scored) []
  obtain ⟨-, -, hdown⟩ := hosted_gate default (reading own) (some header) ⟨0, 700⟩ down []
  obtain ⟨-, -, hpasses, -⟩ := hknown _ hpaid
  obtain ⟨hfails, -⟩ := hdown _ hpaid
  refine ⟨header, (hpasses _ _).mpr ⟨rfl, ?_, rfl, ⟨700, rfl, by decide⟩, ⟨0, rfl, by decide⟩⟩, hfails.mp ?_⟩
  · exact .found rfl (by decide) rfl rfl (by intro h; cases h)
  · exact .status rfl (by decide) (by decide) (by decide)

end PayerExample

end ArsSolana.Python
