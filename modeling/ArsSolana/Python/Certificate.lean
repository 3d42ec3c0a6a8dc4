import ArsSolana.Library.Python.Codec
import ArsSolana.Library.Sha256
import ArsSolana.Python.Conformance

/-!
# `conformance_cli.py`: the certificate

The fingerprint is the hash of the subject, the time of issue and the counts of the report, as text between `|` and `/`. The time,
`int(time.time())` in the source, is given here.
-/

namespace ArsSolana.Python

/-- A signed declaration that an implementation passes the suite. -/
structure ConformanceCertificate where
  profile : String
  profileVersion : String
  issuer : String
  subject : Py.Str
  issuedAt : Int
  transport : String
  statePassed : Int
  stateTotal : Int
  illegalPassed : Int
  illegalTotal : Int
  viewBondPassed : Int
  viewBondTotal : Int
  /-- Hex SHA-256 over the pass counts, the subject and the time of issue. -/
  fingerprint : String
  signature : Option String := none
  deriving DecidableEq

def ConformanceCertificate.passed (cert : ConformanceCertificate) : Bool :=
  cert.statePassed = cert.stateTotal ∧ cert.illegalPassed = cert.illegalTotal ∧ cert.viewBondPassed = cert.viewBondTotal

variable (py : Py.Interpreter)

/-- The bytes of a text the interpreter wrote. -/
def encode (text : String) : Bytes := Py.utf8Bytes text.toList

/-- The counts of one set of vectors, behind its letter. -/
def countBytes (letter : String) (passed : Int) (failed : List String) : Except Py.Exception Bytes := do
  let passedText ← py.strOfInt passed
  let totalText ← py.strOfInt (passed + failed.length)
  .ok (encode s!"{letter}{passedText}/{totalText}")

/-- What `_fingerprint` feeds to the hash, one update after another. -/
def fingerprintInput (report : ConformanceReport) (subject : Py.Str) (issuedAt : Int) : Except Py.Exception Bytes := do
  let subjectBytes ← Py.encodeUtf8 subject
  let issuedText ← py.strOfInt issuedAt
  let state ← countBytes py "s" report.statePassed report.stateFailed
  let illegal ← countBytes py "i" report.illegalPassed report.illegalFailed
  let viewBond ← countBytes py "v" report.viewBondPassed report.viewBondFailed
  .ok (subjectBytes ++ encode "|" ++ encode issuedText ++ encode "|" ++ state ++ encode "|" ++ illegal ++ encode "|" ++ viewBond)

def fingerprint (report : ConformanceReport) (subject : Py.Str) (issuedAt : Int) : Except Py.Exception String := do
  let input ← fingerprintInput py report subject issuedAt
  .ok (Bytes.hex (Sha256.digest input))

/-- The certificate of a report, issued now. -/
def certificateFromReport (report : ConformanceReport) (subject : Py.Str) (transport : String) (now : Int) :
    Except Py.Exception ConformanceCertificate := do
  let issuedAt := now
  let fp ← fingerprint py report subject issuedAt
  .ok {
    profile := "ARS-Solana"
    profileVersion := "v0.1"
    issuer := "telaro-ars conformance harness"
    subject := subject
    issuedAt := issuedAt
    transport := transport
    statePassed := report.statePassed
    stateTotal := report.statePassed + report.stateFailed.length
    illegalPassed := report.illegalPassed
    illegalTotal := report.illegalPassed + report.illegalFailed.length
    viewBondPassed := report.viewBondPassed
    viewBondTotal := report.viewBondPassed + report.viewBondFailed.length
    fingerprint := fp }

end ArsSolana.Python
