import ArsSolana.Library.Python.JsonSorted
import ArsSolana.Python.Certificate
import ArsSolana.Python.HttpTransport

/-!
# `conformance_cli.py`: the command line

From parsed arguments to an exit code and what was written. Modules to import, the endpoint, the clock, the signer and the files
are the world the program runs in.
-/

namespace ArsSolana.Python

/-! ## Texts -/

/-- The fields of a certificate in their order. -/
def ConformanceCertificate.fields (cert : ConformanceCertificate) : List (String × Py.Value) := [
  ("profile", jsonText cert.profile),
  ("profile_version", jsonText cert.profileVersion),
  ("issuer", jsonText cert.issuer),
  ("subject", .str cert.subject),
  ("issued_at", .int cert.issuedAt),
  ("transport", jsonText cert.transport),
  ("state_passed", .int cert.statePassed),
  ("state_total", .int cert.stateTotal),
  ("illegal_passed", .int cert.illegalPassed),
  ("illegal_total", .int cert.illegalTotal),
  ("view_bond_passed", .int cert.viewBondPassed),
  ("view_bond_total", .int cert.viewBondTotal),
  ("fingerprint", jsonText cert.fingerprint),
  ("signature", cert.signature.elim .none jsonText)]

variable (py : Py.Interpreter)

/-- `_dump_certificate`. -/
def dumpCertificate (cert : ConformanceCertificate) (pretty : Bool) : Except Py.Exception Py.Str :=
  Py.Json.dumpsSorted py (if pretty then some 2 else none) (Py.record cert.fields)

/-- `json.dumps(as_json(), indent=2, default=str)`. Nothing in the suite asks for the `default`. -/
def dumpVectors (stateVectors : List StateVector) (illegalVectors : List IllegalVector)
    (viewBondVectors : List ViewBondVector) : Except Py.Exception Py.Str :=
  Py.Json.dumps py (some 2) (asJson stateVectors illegalVectors viewBondVectors)

/-- The line of one set of vectors. -/
def summaryLine (label : String) (passed : Int) (failed : List String) : Except Py.Exception String := do
  let passedText ← py.strOfInt passed
  let totalText ← py.strOfInt (passed + failed.length)
  .ok s!"{label}{passedText}/{totalText}"

def ConformanceReport.summary (r : ConformanceReport) : Except Py.Exception String := do
  let state ← summaryLine py "State vectors:       " r.statePassed r.stateFailed
  let illegal ← summaryLine py "Illegal vectors:     " r.illegalPassed r.illegalFailed
  let viewBond ← summaryLine py "view_bond vectors:   " r.viewBondPassed r.viewBondFailed
  .ok ("\n".intercalate ([state, illegal, viewBond] ++ r.stateFailed.map (s!"  STATE FAIL: {·}") ++
    r.illegalFailed.map (s!"  ILLEGAL FAIL: {·}") ++ r.viewBondFailed.map (s!"  VIEW_BOND FAIL: {·}")))

/-! ## The world -/

/-- What the program asks of the world. -/
structure World where
  importModule : Py.Str → Except Py.Exception TargetModule
  post : Endpoint
  /-- `str` of a float, a list or a dictionary. -/
  repr : Py.Value → Except Py.Exception Py.Str
  /-- `int(time.time())`. -/
  now : Int
  /-- `_sign_certificate(cert, path)`: reads the keypair and signs the fingerprint. -/
  sign : ConformanceCertificate → Py.Str → Except Py.Exception String
  /-- Open a file and write the text to it. -/
  write : Py.Str → Py.Str → Except Py.Exception Unit

/-- What ends the program with a traceback. -/
inductive Ended where
  | raised (e : Py.Exception)
  | target (mod : TargetModule) (e : Escaped mod.Exc)

/-- What a run that returned has written. -/
structure Output where
  stdout : List Py.Str := []
  stderr : List String := []
  files : List (Py.Str × Py.Str) := []

/-- The arguments, parsed. -/
inductive Command where
  | selfTest (cert : Bool) (signWith out : Option Py.Str)
  | run (against : Py.Str) (signWith out : Option Py.Str)
  | dumpVectors (out : Option Py.Str)

/-! ## The run -/

variable (w : World)

/-- An argument that counts: an empty one is as none. -/
def given (arg : Option Py.Str) : Option Py.Str := arg.filter fun s => !s.isEmpty

/-- Write the body to the file named, or print it. -/
def emit (body : Py.Str) (out : Option Py.Str) (stderr : List String) : Except Py.Exception Output :=
  match given out with
  | some path => do
    w.write path body
    .ok { stderr := stderr ++ [s!"wrote {shown path}"], files := [(path, body)] }
  | none => .ok { stdout := [body], stderr := stderr }

def exitCode (report : ConformanceReport) : Nat := if report.ok then 0 else 1

/-- The certificate, signed when a keypair is named. -/
def signed (cert : ConformanceCertificate) (signWith : Option Py.Str) : Except Py.Exception ConformanceCertificate :=
  match given signWith with
  | some path => do
    let signature ← w.sign cert path
    .ok { cert with signature := some signature }
  | none => .ok cert

/-- Issue the certificate of a report, sign it when asked to, and write it. -/
def certify (report : ConformanceReport) (subject : Py.Str) (transport : String) (signWith out : Option Py.Str)
    (summary : String) : Except Py.Exception (Nat × Output) := do
  let cert ← certificateFromReport py report subject transport w.now
  let cert ← signed w cert signWith
  let body ← dumpCertificate py cert true
  let output ← emit w body out [summary]
  .ok (exitCode report, output)

def startsWith (s : Py.Str) (start : String) : Bool := (Py.Str.ofString start).isPrefixOf s

/-- The endpoint of an `http:` or `https:` spec. -/
def endpointOf (spec : Py.Str) : Py.Str :=
  let endpoint := if startsWith spec "http:" then spec.drop 5 else spec
  if startsWith endpoint "http" then endpoint else Py.Str.ofString "http:" ++ endpoint

variable (stateVectors : List StateVector) (illegalVectors : List IllegalVector) (viewBondVectors : List ViewBondVector)

/-- Run the harness against what the spec names: the report, the subject and the transport, or none for a spec of neither kind. -/
def runAgainst (spec : Py.Str) : Except Ended (Option (ConformanceReport × Py.Str × String)) :=
  if startsWith spec "python:" then
    let modulePath := spec.drop 7
    match w.importModule modulePath with
    | .error e => .error (.raised e)
    | .ok mod => do
      let report ← (runPythonTransport mod stateVectors illegalVectors viewBondVectors).mapError (.target mod)
      .ok (some (report, Py.Str.ofString "python:" ++ modulePath, "python"))
  else if startsWith spec "http:" || startsWith spec "https:" then
    .ok (some (runHttpTransport py w.repr w.post (endpointOf spec) stateVectors illegalVectors viewBondVectors, spec, "http"))
  else .ok none

/-- `main`, on parsed arguments. -/
def main (command : Command) : Except Ended (Nat × Output) :=
  match command with
  | .selfTest cert signWith out => do
    let report ← (runSelfTest py stateVectors illegalVectors viewBondVectors).mapError .raised
    let summary ← (report.summary py).mapError .raised
    if !cert && (given out).isNone then .ok (exitCode report, { stderr := [summary] })
    else (certify py w report (Py.Str.ofString "telaro-ars reference (python)") "self-test" signWith out summary).mapError .raised
  | .run spec signWith out => do
    match ← runAgainst py w stateVectors illegalVectors viewBondVectors spec with
    | none => .ok (2, { stderr := ["error: --against must be 'python:<module>' or 'http:<endpoint>'"] })
    | some (report, subject, transport) => do
      let summary ← (report.summary py).mapError .raised
      (certify py w report subject transport signWith out summary).mapError .raised
  | .dumpVectors out => do
    let body ← (Python.dumpVectors py stateVectors illegalVectors viewBondVectors).mapError .raised
    let output ← (emit w body out []).mapError .raised
    .ok (0, output)

end ArsSolana.Python
