import ArsSolana.Library.Python.Record
import ArsSolana.Python.Conformance

/-!
# `conformance.py`: the corpus, the self test and the dump

The vectors of the profile, `runSelfTest` on any vectors, and `asJson`, which writes vectors out for implementations in other
languages.
-/

namespace ArsSolana.Python

/-! ## The corpus -/

/-- `JobOpened` of the corpus. -/
def corpusOpened (exposureAtomic : Int) : ArsEvent := .jobOpened ⟨"j1", 1, "A", "D", exposureAtomic⟩

def STATE_VECTORS : List StateVector := [
  { name := "awaiting underwriting after open"
    log := [corpusOpened (10 ^ 9)]
    expectedState := "AWAIT_UNDERWRITING" },
  { name := "rejected after failing underwriting"
    log := [
      corpusOpened (10 ^ 9),
      .underwritingStarted ⟨"j1", 2⟩,
      .underwritingDecided ⟨"j1", 3, false, some "BOND_BELOW_MIN"⟩]
    expectedState := "REJECTED" },
  { name := "executing after one principal draw"
    log := [
      corpusOpened (10 ^ 9),
      .underwritingStarted ⟨"j1", 2⟩,
      .underwritingDecided ⟨"j1", 3, true, none⟩,
      .principalReleased ⟨"j1", 4, 500000000⟩]
    expectedState := "EXECUTING"
    expectedReleasedAtomic := 500000000 },
  { name := "closed (no dispute)"
    log := [
      corpusOpened (10 ^ 9),
      .underwritingStarted ⟨"j1", 2⟩,
      .underwritingDecided ⟨"j1", 3, true, none⟩,
      .principalReleased ⟨"j1", 4, 10 ^ 9⟩,
      .evidenceSubmitted ⟨"j1", 5, "0xabc", .success⟩,
      .closed ⟨"j1", 6, .noDispute⟩]
    expectedState := "CLOSED"
    expectedReleasedAtomic := 10 ^ 9 },
  { name := "closed via dispute upheld"
    log := [
      corpusOpened (10 ^ 9),
      .underwritingStarted ⟨"j1", 2⟩,
      .underwritingDecided ⟨"j1", 3, true, none⟩,
      .principalReleased ⟨"j1", 4, 10 ^ 9⟩,
      .evidenceSubmitted ⟨"j1", 5, "0xabc", .failed⟩,
      .disputed ⟨"j1", 6, "C"⟩,
      .closed ⟨"j1", 7, .disputeUpheld⟩]
    expectedState := "CLOSED"
    expectedReleasedAtomic := 10 ^ 9 }]

def ILLEGAL_VECTORS : List IllegalVector := [
  ⟨"principal before underwriting", [corpusOpened 1, .principalReleased ⟨"j1", 2, 1⟩]⟩,
  ⟨"event for unknown job", [.underwritingStarted ⟨"ghost", 1⟩]⟩,
  ⟨"event after terminal CLOSED", [
    corpusOpened 1,
    .underwritingStarted ⟨"j1", 2⟩,
    .underwritingDecided ⟨"j1", 3, false, some "X"⟩,
    .underwritingStarted ⟨"j1", 4⟩]⟩]

/-- `_view_bond_expected`, of numbers that fit. -/
def viewBondExpected (minBond minScore : Nat) : String :=
  Bytes.hex ((Sha256.digest (Py.utf8Bytes "global:view_bond".toList)).take 8 ++ Bytes.toLE 8 minBond ++ Bytes.toLE 2 minScore)

def VIEW_BOND_VECTORS : List ViewBondVector := [
  ⟨"zeros", 0, 0, viewBondExpected 0 0⟩,
  ⟨"1 USDC, score 700", 1000000, 700, viewBondExpected 1000000 700⟩,
  ⟨"1000 USDC, score 800", 1000000000, 800, viewBondExpected 1000000000 800⟩,
  ⟨"u64-max bond, u16-max score", 0xFFFFFFFFFFFFFFFF, 0xFFFF, viewBondExpected 0xFFFFFFFFFFFFFFFF 0xFFFF⟩]

/-! ## The self test -/

section SelfTest

variable (py : Py.Interpreter)

/-- A round of the first loop. What `replay` raises, and what the text of a number raises, is written down. -/
def selfState (r : ConformanceReport) (v : StateVector) : ConformanceReport :=
  match replay v.log with
  | .ok job =>
    if job.state.text = v.expectedState ∧ job.releasedAtomic = v.expectedReleasedAtomic then
      { r with statePassed := r.statePassed + 1 }
    else
      match py.strOfInt job.releasedAtomic with
      | .ok released => { r with stateFailed := r.stateFailed ++ [s!"{v.name}: got state={job.state} released={released}"] }
      | .error e => { r with stateFailed := r.stateFailed ++ [s!"{v.name}: raised ValueError: {e.message}"] }
  | .error e => { r with stateFailed := r.stateFailed ++ [s!"{v.name}: raised ARSTransitionError: {e.message}"] }

/-- A round of the second loop. `replay` raises nothing but its transition error. -/
def selfIllegal (r : ConformanceReport) (v : IllegalVector) : ConformanceReport :=
  match replay v.log with
  | .ok _ => { r with illegalFailed := r.illegalFailed ++ [s!"{v.name}: should have raised"] }
  | .error _ => { r with illegalPassed := r.illegalPassed + 1 }

/-- A round of the third loop. -/
def selfViewBond (r : ConformanceReport) (v : ViewBondVector) : Except Py.Exception ConformanceReport := do
  let ix ← buildViewBondIx ⟨"conformance", conformanceAgent, v.minBondAtomic, v.minScore⟩ PROGRAM_ID_DEVNET
  let got := Bytes.hex ix.data
  if got = v.expectedDataHex then .ok { r with viewBondPassed := r.viewBondPassed + 1 }
  else .ok { r with viewBondFailed := r.viewBondFailed ++ [s!"{v.name}: expected {v.expectedDataHex}, got {got}"] }

/-- Run the corpus against the reference. -/
def runSelfTest (stateVectors : List StateVector) (illegalVectors : List IllegalVector)
    (viewBondVectors : List ViewBondVector) : Except Py.Exception ConformanceReport := do
  let mut r : ConformanceReport := {}
  for v in stateVectors do
    r := selfState py r v
  for v in illegalVectors do
    r := selfIllegal r v
  for v in viewBondVectors do
    r ← selfViewBond r v
  return r

end SelfTest

/-! ## The dump -/

/-- A text in a document. -/
def jsonText (s : String) : Py.Value := .str (Py.Str.ofString s)

/-- The fields of an event in their order, the tag last. -/
def ArsEvent.fields (e : ArsEvent) : List (String × Py.Value) :=
  match e with
  | jobOpened o => [
      ("job_id", jsonText o.jobId), ("at", .int o.atTime), ("agent", jsonText o.agent), ("requestor", jsonText o.requestor),
      ("exposure_atomic", .int o.exposureAtomic), ("type", jsonText e.type)]
  | underwritingStarted o => [("job_id", jsonText o.jobId), ("at", .int o.atTime), ("type", jsonText e.type)]
  | underwritingDecided o => [
      ("job_id", jsonText o.jobId), ("at", .int o.atTime), ("passed", .bool o.passed),
      ("failure_code", o.failureCode.elim .none jsonText), ("type", jsonText e.type)]
  | principalReleased o => [
      ("job_id", jsonText o.jobId), ("at", .int o.atTime), ("amount_atomic", .int o.amountAtomic), ("type", jsonText e.type)]
  | evidenceSubmitted o => [
      ("job_id", jsonText o.jobId), ("at", .int o.atTime), ("action_hash", jsonText o.actionHash),
      ("outcome", jsonText o.outcome.text), ("type", jsonText e.type)]
  | disputed o => [
      ("job_id", jsonText o.jobId), ("at", .int o.atTime), ("claim", jsonText o.claim), ("type", jsonText e.type)]
  | closed o => [
      ("job_id", jsonText o.jobId), ("at", .int o.atTime), ("resolution", jsonText o.resolution.text), ("type", jsonText e.type)]

/-- `e.__dict__`. -/
def ArsEvent.dict (e : ArsEvent) : Py.Value := Py.record e.fields

/-- `[e.__dict__ for e in log]`. -/
def logDicts (log : List ArsEvent) : Py.Value := .list (log.map ArsEvent.dict)

/-- Dump the suite so that other implementations can read it. -/
def asJson (stateVectors : List StateVector) (illegalVectors : List IllegalVector) (viewBondVectors : List ViewBondVector) :
    Py.Value :=
  Py.record [
    ("profile", jsonText "ARS-Solana Profile v0.1"),
    ("state_vectors", .list (stateVectors.map fun v => Py.record [
      ("name", jsonText v.name), ("expected_state", jsonText v.expectedState),
      ("expected_released_atomic", .int v.expectedReleasedAtomic), ("log", logDicts v.log)])),
    ("illegal_vectors", .list (illegalVectors.map fun v => Py.record [("name", jsonText v.name), ("log", logDicts v.log)])),
    ("view_bond_vectors", .list (viewBondVectors.map fun v => Py.record [
      ("name", jsonText v.name), ("min_bond_atomic", .int v.minBondAtomic), ("min_score", .int v.minScore),
      ("expected_data_hex", jsonText v.expectedDataHex)]))]

end ArsSolana.Python
