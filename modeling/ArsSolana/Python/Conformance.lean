import ArsSolana.Python.Binding
import ArsSolana.Python.State

/-!
# `conformance.py` and `conformance_cli.py`: the harness

`runPythonTransport` runs the vectors against a module somebody else wrote. `TargetModule` holds what the harness asks of it; each
call may raise whatever the module likes to raise. The texts of vectors, like those of events, are of whole characters.
-/

namespace ArsSolana.Python

/-! ## Vectors -/

/-- A complete log and the terminal state it must replay to. -/
structure StateVector where
  name : String
  log : List ArsEvent
  expectedState : String
  expectedReleasedAtomic : Int := 0
  deriving DecidableEq

/-- A log that must raise the implementation's transition error. -/
structure IllegalVector where
  name : String
  log : List ArsEvent
  deriving DecidableEq

/-- An (input, expected canonical byte form) pair for `view_bond`. -/
structure ViewBondVector where
  name : String
  minBondAtomic : Int
  minScore : Int
  expectedDataHex : String
  deriving DecidableEq

/-! ## The report -/

/-- Result of running the suite against an implementation. -/
structure ConformanceReport where
  statePassed : Int := 0
  stateFailed : List String := []
  illegalPassed : Int := 0
  illegalFailed : List String := []
  viewBondPassed : Int := 0
  viewBondFailed : List String := []
  deriving DecidableEq, Repr

def ConformanceReport.ok (r : ConformanceReport) : Bool :=
  !(!r.stateFailed.isEmpty || !r.illegalFailed.isEmpty || !r.viewBondFailed.isEmpty)

/-! ## The implementation under test -/

/-- An imported module, as far as the harness looks at it. -/
structure TargetModule where
  /-- What its `replay` returns. -/
  Job : Type
  Params : Type
  Ix : Type
  /-- The exceptions it raises. -/
  Exc : Type
  /-- `hasattr(mod, name)`. -/
  hasattr : String → Bool
  replay : List ArsEvent → Except Exc Job
  /-- `job.state == expected`, as a condition. -/
  stateIs : Job → String → Except Exc Bool
  /-- `getattr(job, "released_atomic", 0) == expected`, as a condition. -/
  releasedIs : Job → Int → Except Exc Bool
  /-- The text of `job.state`. -/
  stateText : Job → Except Exc String
  /-- The text of `getattr(job, "released_atomic", None)`. -/
  releasedText : Job → Except Exc String
  /-- `LockCollateralParams(job_id, agent, min_bond_atomic, min_score)`. -/
  lockCollateralParams : String → Pubkey → Int → Int → Except Exc Params
  buildViewBondIx : Params → Except Exc Ix
  /-- `bytes(ix.data)`. -/
  dataBytes : Ix → Except Exc Bytes
  /-- `except ARSTransitionError` takes the exception. -/
  isTransitionError : Exc → Bool
  /-- `type(e).__name__`. -/
  typeName : Exc → String
  /-- `str(e)`, which the class of the exception may define. -/
  text : Exc → Except Exc String

/-- The names a target must expose. -/
def needed : List String := ["apply_event", "replay", "ARSTransitionError", "build_view_bond_ix", "LockCollateralParams"]

/-- What ends the harness without a report: the `RuntimeError` on missing names, or an exception of the target. -/
inductive Escaped (Exc : Type) where
  | missingExports (names : List String)
  | raised (e : Exc)

def conformanceAgent : Pubkey :=
  (Pubkey.ofBase58 "4Nd1mYJgC7DsB3v9pkM9CRZxoUTfXn1kbm1zFM5hZRgM").get (by decide +kernel)

/-! ## The loops -/

variable (mod : TargetModule)

/-- The `try` of the first loop: none when the vector passes, else the line of its failure. -/
def tryState (v : StateVector) : Except mod.Exc (Option String) := do
  let job ← mod.replay v.log
  let stateMatches ← mod.stateIs job v.expectedState
  let ok ← if stateMatches then mod.releasedIs job v.expectedReleasedAtomic else .ok false
  if ok then .ok none
  else
    let state ← mod.stateText job
    let released ← mod.releasedText job
    .ok (some s!"{v.name}: got state={state}, released={released}")

/-- A round of the first loop. -/
def runState (r : ConformanceReport) (v : StateVector) : Except mod.Exc ConformanceReport :=
  match tryState mod v with
  | .ok none => .ok { r with statePassed := r.statePassed + 1 }
  | .ok (some line) => .ok { r with stateFailed := r.stateFailed ++ [line] }
  | .error e => do
    -- nothing catches what is raised in the `except` clause
    let text ← mod.text e
    .ok { r with stateFailed := r.stateFailed ++ [s!"{v.name}: raised {mod.typeName e}: {text}"] }

/-- A round of the second loop. -/
def runIllegal (r : ConformanceReport) (v : IllegalVector) : Except mod.Exc ConformanceReport :=
  match mod.replay v.log with
  | .ok _ => .ok { r with illegalFailed := r.illegalFailed ++ [s!"{v.name}: should have raised"] }
  | .error e =>
    if mod.isTransitionError e then .ok { r with illegalPassed := r.illegalPassed + 1 }
    else .ok { r with illegalFailed := r.illegalFailed ++ [s!"{v.name}: raised wrong type {mod.typeName e}"] }

/-- The data the target encodes for a vector. -/
def viewBondData (v : ViewBondVector) : Except mod.Exc Bytes := do
  let params ← mod.lockCollateralParams "conformance" conformanceAgent v.minBondAtomic v.minScore
  let ix ← mod.buildViewBondIx params
  mod.dataBytes ix

/-- A round of the third loop. It has no `try`. -/
def runViewBond (r : ConformanceReport) (v : ViewBondVector) : Except mod.Exc ConformanceReport := do
  let got := Bytes.hex (← viewBondData mod v)
  if got = v.expectedDataHex then .ok { r with viewBondPassed := r.viewBondPassed + 1 }
  else .ok { r with viewBondFailed := r.viewBondFailed ++ [s!"{v.name}: expected {v.expectedDataHex}, got {got}"] }

/-- The three loops, one after another. -/
def runVectors (stateVectors : List StateVector) (illegalVectors : List IllegalVector) (viewBondVectors : List ViewBondVector) :
    Except mod.Exc ConformanceReport := do
  let mut r : ConformanceReport := {}
  for v in stateVectors do
    r ← runState mod r v
  for v in illegalVectors do
    r ← runIllegal mod r v
  for v in viewBondVectors do
    r ← runViewBond mod r v
  return r

/-- Run the harness against the names an imported module exports. -/
def runPythonTransport (stateVectors : List StateVector) (illegalVectors : List IllegalVector)
    (viewBondVectors : List ViewBondVector) : Except (Escaped mod.Exc) ConformanceReport :=
  let missing := needed.filter fun n => !mod.hasattr n
  if missing ≠ [] then .error (.missingExports missing)
  else (runVectors mod stateVectors illegalVectors viewBondVectors).mapError .raised

/-! ## The reference as a target -/

/-- `telaro_ars`, as far as the harness looks at it. -/
def selfModule (py : Py.Interpreter) : TargetModule where
  Job := Job
  Params := LockCollateralParams
  Ix := Instruction
  Exc := ARSTransitionError ⊕ Py.Exception
  hasattr name := name ∈ needed
  replay log := (replay log).mapError .inl
  stateIs job expected := .ok (job.state.text = expected)
  releasedIs job expected := .ok (job.releasedAtomic = expected)
  stateText job := .ok job.state.text
  releasedText job := (py.strOfInt job.releasedAtomic).mapError .inr
  lockCollateralParams jobId agent minBondAtomic minScore := .ok ⟨jobId, agent, minBondAtomic, minScore⟩
  buildViewBondIx params := (buildViewBondIx params PROGRAM_ID_DEVNET).mapError .inr
  dataBytes ix := .ok ix.data
  isTransitionError e := e.isLeft
  typeName e := e.elim (fun _ => "ARSTransitionError") (fun _ => "ValueError")
  text e := .ok (e.elim (·.message) (·.message))

end ArsSolana.Python
