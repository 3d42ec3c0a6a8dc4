import ArsSolana.Theorems.HttpTransport
import ArsSolana.Theorems.Parity

/-!
# The TypeScript state machine under the Python harness

`state.ts` behind an HTTP endpoint, tested with the vectors of any suite: it passes exactly the state and illegal vectors that
`state.py` passes in its self test.
-/

namespace ArsSolana.Python

open Tally

/-- `state.ts` as an implementation under test, beside any encoder of `view_bond`. -/
def typeScriptModule (encode : LockCollateralParams → Except Py.Exception Bytes) : TargetModule where
  Job := TypeScript.Job
  Params := LockCollateralParams
  Ix := Bytes
  Exc := TypeScript.ARSTransitionError ⊕ Py.Exception
  hasattr name := name ∈ needed
  replay log := (TypeScript.replay (log.map ArsEvent.toTypeScript)).mapError .inl
  stateIs job expected := .ok (job.state.text = expected)
  releasedIs job expected := .ok (job.releasedAtomic = expected)
  stateText job := .ok job.state.text
  releasedText job := .ok (toString job.releasedAtomic)
  lockCollateralParams jobId agent minBondAtomic minScore := .ok ⟨jobId, agent, minBondAtomic, minScore⟩
  buildViewBondIx params := (encode params).mapError .inr
  dataBytes := .ok
  isTransitionError e := e.isLeft
  typeName e := e.elim (fun _ => "ARSTransitionError") (fun _ => "Error")
  text e := .ok (e.elim (·.message) (·.message))

variable {encode : LockCollateralParams → Except Py.Exception Bytes}

/-- Both sides replay a log to corresponding jobs, or both refuse it. -/
theorem replay_both (log : List ArsEvent) :
    (∃ job, replay log = .ok job ∧ TypeScript.replay (log.map ArsEvent.toTypeScript) = .ok job.toTypeScript) ∨
      ∃ x y, replay log = .error x ∧ TypeScript.replay (log.map ArsEvent.toTypeScript) = .error y := by
  have hts := TypeScript.replay_refines (log.map ArsEvent.toTypeScript)
  rw [map_entry_toTypeScript] at hts
  rcases (replay_refines log).common hts with ⟨j, j', a, hj, hj', -, ha, ha'⟩ | ⟨x, y, r, hx, hy, -⟩
  · exact Or.inl ⟨j, hj, eq_toTypeScript_of_account ha ha' ▸ hj'⟩
  · exact Or.inr ⟨x, y, hx, hy⟩

/-- `state.ts` gives the answers of `state.py`. -/
theorem answersState_typeScript (py : Py.Interpreter) (v : StateVector) :
    answersState (typeScriptModule encode) v = answersState (selfModule py) v := by
  rcases replay_both v.log with ⟨job, hpy, hts⟩ | ⟨x, y, hpy, hts⟩
  · simp only [answersState, typeScriptModule, selfModule, hpy, hts]
    rfl
  · simp only [answersState, typeScriptModule, selfModule, hpy, hts]
    rfl

/-- `state.ts` refuses the logs that `state.py` refuses. -/
theorem answersIllegal_typeScript (py : Py.Interpreter) (v : IllegalVector) :
    answersIllegal (typeScriptModule encode) v = answersIllegal (selfModule py) v := by
  rcases replay_both v.log with ⟨job, hpy, hts⟩ | ⟨x, y, hpy, hts⟩
  · simp only [answersIllegal, typeScriptModule, selfModule, hpy, hts]
    rfl
  · simp only [answersIllegal, typeScriptModule, selfModule, hpy, hts]
    rfl

/-- Behind any endpoint that serves it, `state.ts` passes the state and illegal vectors of every suite as `state.py` does: as many
as the self test counts, and without a failure exactly when the vectors say what the lifecycle says, whatever encodes `view_bond`. -/
theorem typescript_passes_alike (py : Py.Interpreter) (repr : Py.Value → Except Py.Exception Py.Str)
    (encode : LockCollateralParams → Except Py.Exception Bytes) (post : Endpoint) (endpoint : Py.Str)
    (stateVectors : List StateVector) (illegalVectors : List IllegalVector) (viewBondVectors : List ViewBondVector)
    (r : ConformanceReport) (hserves : Serves (typeScriptModule encode) post (rstripSlash endpoint))
    (hr : runHttpTransport py repr post endpoint stateVectors illegalVectors viewBondVectors = r) :
    (∀ r', runSelfTest py stateVectors illegalVectors viewBondVectors = .ok r' →
      r.statePassed = r'.statePassed ∧ r.illegalPassed = r'.illegalPassed) ∧
      (r.stateFailed = [] ↔ ∀ v ∈ stateVectors, Prescribed v) ∧ (r.illegalFailed = [] ↔ ∀ v ∈ illegalVectors, ¬Begins v.log) := by
  have hstate : answersState (typeScriptModule encode) = answersState (selfModule py) := funext (answersState_typeScript py)
  have hillegal : answersIllegal (typeScriptModule encode) = answersIllegal (selfModule py) :=
    funext (answersIllegal_typeScript py)
  have haccounts : Accounts (typeScriptModule encode) stateVectors illegalVectors viewBondVectors r := by
    rw [← hr]
    exact accounts_of_serves hserves stateVectors illegalVectors viewBondVectors
  have hcounted : Counted (answersState (selfModule py)) (LineOf StateVector.name) stateVectors r.stateCount :=
    hstate ▸ haccounts.state
  have hcounted' : Counted (answersIllegal (selfModule py)) (LineOf IllegalVector.name) illegalVectors r.illegalCount :=
    hillegal ▸ haccounts.illegal
  refine ⟨?counts, ?state, ?illegal⟩
  case counts =>
    intro r' hr'
    obtain ⟨r'', hr'', halike⟩ := (alike_vectors py stateVectors illegalVectors viewBondVectors).of_ok hr'
    have hself := accounts_of_runVectors hr''
    rw [← halike.statePassed, ← (Prod.mk.inj halike.illegal).1]
    exact ⟨hcounted.passed.trans hself.state.passed.symm, hcounted'.passed.trans hself.illegal.passed.symm⟩
  case state =>
    refine hcounted.failed_eq_nil_iff.trans ?_
    simp only [answersState_self]
  case illegal =>
    refine hcounted'.failed_eq_nil_iff.trans ?_
    simp only [answersIllegal_self]

/-! ## An endpoint in TypeScript -/

namespace HttpExample

/-- What `state.ts` makes of a log, as a reply. -/
def answerTypeScript (log : List ArsEvent) : Response :=
  match TypeScript.replay (log.map ArsEvent.toTypeScript) with
  | .ok job => answer (Py.record [("state", jsonText job.state.text), ("released_atomic", .int job.releasedAtomic)])
  | .error _ => refusal

/-- `state.ts` behind the protocol, without `view_bond`. -/
def typeScriptEndpoint (base : Py.Str) : Endpoint := fun _ url body =>
  if url = urlOf base "/replay" then .ok ((requestLog body).elim refusal answerTypeScript) else .ok refusal

def noEncoder : LockCollateralParams → Except Py.Exception Bytes := fun _ => .error ⟨.other "NotImplementedError", ""⟩

/-- The endpoint replays the log it is sent. -/
theorem post_typeScript (base : Py.Str) (n : Nat) (log : List ArsEvent) :
    typeScriptEndpoint base n (urlOf base "/replay") (eventsBody log) = .ok (answerTypeScript log) := by
  simp [typeScriptEndpoint, requestLog_eventsBody]

/-- `state.ts` is served. -/
theorem serves_typeScript (base : Py.Str) : Serves (typeScriptModule noEncoder) (typeScriptEndpoint base) base where
  replayed n log job hjob := by
    have hreplay := Outcome.mapError_ok hjob
    refine ⟨Py.entries [("state", jsonText job.state.text), ("released_atomic", .int job.releasedAtomic)],
      job.state.text, job.releasedAtomic, ⟨_, post_typeScript base n log, ?_, ?_⟩, ?_⟩
    · simp only [answerTypeScript, hreplay]
      rfl
    · simp only [answerTypeScript, hreplay]
      rfl
    · simp [Py.get_entries, typeScriptModule]
  refused n log e he _ := by
    refine ⟨_, post_typeScript base n log, ?_⟩
    cases hreplay : TypeScript.replay (log.map ArsEvent.toTypeScript) with
    | ok job => simp [typeScriptModule, hreplay, Except.mapError] at he
    | error x =>
      simp only [answerTypeScript, hreplay]
      decide
  crashed n log e resp he htransition _ := by
    cases hreplay : TypeScript.replay (log.map ArsEvent.toTypeScript) with
    | ok job => simp [typeScriptModule, hreplay, Except.mapError] at he
    | error x =>
      simp only [typeScriptModule, hreplay, Except.mapError] at he
      cases he
      cases htransition
  encoded n v data hdata := by
    cases hdata
  notEncoded n v e resp he hpost := by
    have hurl : urlOf base "/view_bond" ≠ urlOf base "/replay" := by
      intro h
      have := Py.Str.ofString_injective (List.append_cancel_left h)
      simp at this
    simp only [typeScriptEndpoint, hurl, if_false] at hpost
    cases hpost
    decide

/-- The corpus, sent to an endpoint in TypeScript, passes but for the encodings. -/
theorem corpus_passes_typescript :
    ∃ endpoint r, runHttpTransport default (fun _ => .ok []) (typeScriptEndpoint (rstripSlash endpoint)) endpoint STATE_VECTORS
        ILLEGAL_VECTORS VIEW_BOND_VECTORS = r ∧ r.stateFailed = [] ∧ r.illegalFailed = [] := by
  obtain ⟨hstates, hillegals, -⟩ := corpus_answered
  obtain ⟨-, hstate, hillegal⟩ := typescript_passes_alike default (fun _ => .ok []) noEncoder
    (typeScriptEndpoint (rstripSlash (Py.Str.ofString "https://localhost/"))) (Py.Str.ofString "https://localhost/") STATE_VECTORS
    ILLEGAL_VECTORS VIEW_BOND_VECTORS _ (serves_typeScript _) rfl
  exact ⟨_, _, rfl, hstate.mpr fun v hv => (answersState_self default v).mp (hstates v hv),
    hillegal.mpr fun v hv => (answersIllegal_self default v).mp (hillegals v hv)⟩

end HttpExample

end ArsSolana.Python
