import ArsSolana.Library.Delimited
import ArsSolana.Python.Cli
import ArsSolana.Theorems.Corpus
import ArsSolana.Theorems.Fingerprint
import ArsSolana.Theorems.HttpTransport

/-!
# What the command line says of an implementation

A certificate that was written is read back whole, and whoever reads it can recompute its fingerprint. The exit code, the verdict of
the certificate and the answers of what was tested agree.
-/

namespace ArsSolana.Python

open Delimited Py.Json

/-! ## Reading a certificate -/

/-- A text, half characters included. -/
def strField : Py.Value → Option Py.Str
  | .str s => some s
  | _ => none

/-- A text or nothing. -/
def optionalText : Py.Value → Option (Option String)
  | .none => some none
  | v => (textOf v).map some

/-- The certificate of a record's entries. -/
def certificateOf (entries : List (Py.Str × Py.Value)) : Option ConformanceCertificate :=
  ConformanceCertificate.mk <$> textOf (Py.get entries "profile") <*> textOf (Py.get entries "profile_version") <*>
    textOf (Py.get entries "issuer") <*> strField (Py.get entries "subject") <*> intOf (Py.get entries "issued_at") <*>
    textOf (Py.get entries "transport") <*> intOf (Py.get entries "state_passed") <*> intOf (Py.get entries "state_total") <*>
    intOf (Py.get entries "illegal_passed") <*> intOf (Py.get entries "illegal_total") <*>
    intOf (Py.get entries "view_bond_passed") <*> intOf (Py.get entries "view_bond_total") <*>
    textOf (Py.get entries "fingerprint") <*> optionalText (Py.get entries "signature")

def readCertificate (v : Py.Value) : Option ConformanceCertificate := (entriesOf v).bind certificateOf

@[simp] theorem sortKeys_jsonText (s : String) : sortKeys (jsonText s) = jsonText s := by
  rw [jsonText, sortKeys]
  all_goals simp

@[simp] theorem sortKeys_int (n : Int) : sortKeys (.int n) = .int n := by
  rw [sortKeys]
  all_goals simp

/-- The fields of a certificate have different names. -/
theorem keys_fields (cert : ConformanceCertificate) : (cert.fields.map Prod.fst).Nodup := by
  simp [ConformanceCertificate.fields]

/-- A field of the sorted record. -/
theorem get_field {cert : ConformanceCertificate} {key : String} {v : Py.Value}
    (h : cert.fields.find? (fun f => f.1 = key) = some (key, v)) (hv : sortKeys v = v) :
    Py.get (Py.sortedEntries cert.fields) key = v := by
  rw [Py.get_sortedEntries (keys_fields cert), Py.get_entries, h]
  exact hv

/-- The certificate is read from its record, sorted. -/
theorem readCertificate_sortKeys (cert : ConformanceCertificate) :
    readCertificate (sortKeys (Py.record cert.fields)) = some cert := by
  have hsubject : sortKeys (.str cert.subject) = .str cert.subject := by rw [sortKeys] <;> simp
  have hsignature : sortKeys (cert.signature.elim .none jsonText) = cert.signature.elim .none jsonText := by
    cases cert.signature with
    | none => rw [Option.elim_none, sortKeys] <;> simp
    | some signature => exact sortKeys_jsonText signature
  have hoptional : optionalText (cert.signature.elim .none jsonText) = some cert.signature := by
    cases cert.signature with
    | none => rfl
    | some signature => simp [jsonText, optionalText, textOf]
  have htext : ∀ key s, cert.fields.find? (fun f => f.1 = key) = some (key, jsonText s) →
      textOf (Py.get (Py.sortedEntries cert.fields) key) = some s := by
    intro key s h
    rw [get_field h (sortKeys_jsonText s), textOf_jsonText]
  have hint : ∀ key n, cert.fields.find? (fun f => f.1 = key) = some (key, .int n) →
      intOf (Py.get (Py.sortedEntries cert.fields) key) = some n := by
    intro key n h
    rw [get_field h (sortKeys_int n), intOf_int]
  have hsubjectField : strField (Py.get (Py.sortedEntries cert.fields) "subject") = some cert.subject := by
    rw [get_field (by simp [ConformanceCertificate.fields]) hsubject, strField]
  have hsignatureField : optionalText (Py.get (Py.sortedEntries cert.fields) "signature") = some cert.signature := by
    rw [get_field (by simp [ConformanceCertificate.fields]) hsignature, hoptional]
  rw [Py.sortKeys_record, readCertificate, entriesOf, Option.bind_some, certificateOf,
    htext "profile" cert.profile (by simp [ConformanceCertificate.fields]),
    htext "profile_version" cert.profileVersion (by simp [ConformanceCertificate.fields]),
    htext "issuer" cert.issuer (by simp [ConformanceCertificate.fields]), hsubjectField,
    hint "issued_at" cert.issuedAt (by simp [ConformanceCertificate.fields]),
    htext "transport" cert.transport (by simp [ConformanceCertificate.fields]),
    hint "state_passed" cert.statePassed (by simp [ConformanceCertificate.fields]),
    hint "state_total" cert.stateTotal (by simp [ConformanceCertificate.fields]),
    hint "illegal_passed" cert.illegalPassed (by simp [ConformanceCertificate.fields]),
    hint "illegal_total" cert.illegalTotal (by simp [ConformanceCertificate.fields]),
    hint "view_bond_passed" cert.viewBondPassed (by simp [ConformanceCertificate.fields]),
    hint "view_bond_total" cert.viewBondTotal (by simp [ConformanceCertificate.fields]),
    htext "fingerprint" cert.fingerprint (by simp [ConformanceCertificate.fields]), hsignatureField]
  rfl

/-! ## The certificate that is written -/

/-- A certificate goes through JSON as it is when its subject does. -/
theorem plain_certificate {cert : ConformanceCertificate} (h : Whole cert.subject) :
    Plain 1 (sortKeys (Py.record cert.fields)) := by
  refine (plain_record (keys_fields cert) ?_).sortKeys
  have hsignature : Plain 0 (cert.signature.elim .none jsonText) := by
    cases cert.signature with
    | none => exact .none
    | some signature => exact plain_jsonText 0 signature
  simp [ConformanceCertificate.fields, plain_jsonText, Plain.int, Plain.str h, hsignature]

/-- What is written of a certificate, on one line or on many, is read back as the certificate, from the text and from its bytes. -/
theorem certificate_read_back (py : Py.Interpreter) (cert : ConformanceCertificate) (pretty : Bool) (text : Py.Str)
    (hdepth : 1 ≤ py.maxDepth) (hsubject : Whole cert.subject) (htext : dumpCertificate py cert pretty = .ok text) :
    ∃ doc, loads py text = .ok doc ∧ readCertificate doc = some cert ∧
      Py.encodeUtf8 text = .ok (Py.asciiBytes text) ∧ py.decodeUtf8 (Py.asciiBytes text) = .ok text := by
  have hplain := plain_certificate hsubject
  rw [dumpCertificate, dumpsSorted] at htext
  obtain ⟨hencode, hdecode⟩ := decodeUtf8_dumps hplain htext
  exact ⟨_, loads_dumps hplain hdepth htext, readCertificate_sortKeys cert, hencode, hdecode⟩

/-- A certificate nobody signed. -/
def unsigned : ConformanceCertificate where
  profile := "ARS-Solana"
  profileVersion := "v0.1"
  issuer := "telaro-ars conformance harness"
  subject := Py.Str.ofString "http://localhost/\u00e9"
  issuedAt := 1700000000
  transport := "http"
  statePassed := 4
  stateTotal := 5
  illegalPassed := 3
  illegalTotal := 3
  viewBondPassed := 4
  viewBondTotal := 4
  fingerprint := "00"

theorem dumpCertificate_unsigned : dumpCertificate default unsigned false =
    .ok (write (Py.Interpreter.floatText default) none 0 (sortKeys (Py.record unsigned.fields))) := by
  rw [dumpCertificate, dumpsSorted]
  exact dumps_ok_iff.mpr ⟨by decide +kernel, rfl⟩

theorem certificate_read_back_unsigned : ∃ text doc, dumpCertificate default unsigned false = .ok text ∧
    loads default text = .ok doc ∧ readCertificate doc = some unsigned := by
  obtain ⟨doc, hloads, hread, -⟩ := certificate_read_back default unsigned false _ (by decide) (whole_ofString _)
    dumpCertificate_unsigned
  exact ⟨_, doc, dumpCertificate_unsigned, hloads, hread⟩

/-! ## Reports of a spec -/

section Specs

variable (py : Py.Interpreter) (w : World) (stateVectors : List StateVector) (illegalVectors : List IllegalVector)
  (viewBondVectors : List ViewBondVector)

/-- A module answers every vector. -/
structure ModuleAnswered (mod : TargetModule) : Prop where
  state : ∀ v ∈ stateVectors, answersState mod v = true
  illegal : ∀ v ∈ illegalVectors, answersIllegal mod v = true
  viewBond : ∀ v ∈ viewBondVectors, answersViewBond mod v = true

/-- What the spec names answers every vector. -/
def SpecAnswered (spec : Py.Str) : Prop :=
  if startsWith spec "python:" then
    ∃ mod, w.importModule (spec.drop 7) = .ok mod ∧ ModuleAnswered stateVectors illegalVectors viewBondVectors mod
  else HttpAnswered py w.repr w.post (rstripSlash (endpointOf spec)) stateVectors illegalVectors viewBondVectors

/-- The spec names a transport. -/
def Known (spec : Py.Str) : Prop :=
  startsWith spec "python:" = true ∨ startsWith spec "http:" = true ∨ startsWith spec "https:" = true

variable {py w stateVectors illegalVectors viewBondVectors}

/-- What is left of a spec, behind what it starts with. -/
theorem append_drop_of_startsWith {spec : Py.Str} {start : String} (h : startsWith spec start = true) :
    Py.Str.ofString start ++ spec.drop (Py.Str.ofString start).length = spec :=
  List.prefix_iff_eq_append.mp (List.isPrefixOf_iff_prefix.mp h)

/-- The transport returns a report only after it ran the vectors. -/
theorem runVectors_of_transport {mod : TargetModule} {r : ConformanceReport}
    (h : runPythonTransport mod stateVectors illegalVectors viewBondVectors = .ok r) :
    runVectors mod stateVectors illegalVectors viewBondVectors = .ok r := by
  unfold runPythonTransport at h
  simp only at h
  split at h
  · cases h
  · exact Outcome.mapError_ok h

/-- A report of a spec: its subject is the spec, and it is ok exactly when what the spec names answers. -/
theorem runAgainst_some {spec subject : Py.Str} {report : ConformanceReport} {transport : String}
    (h : runAgainst py w stateVectors illegalVectors viewBondVectors spec = .ok (some (report, subject, transport))) :
    subject = spec ∧ Known spec ∧ (report.ok = true ↔ SpecAnswered py w stateVectors illegalVectors viewBondVectors spec) := by
  unfold runAgainst at h
  unfold SpecAnswered Known
  by_cases hpython : startsWith spec "python:" = true
  · rw [if_pos hpython] at h
    rw [if_pos hpython]
    cases hmod : w.importModule (spec.drop 7) with
    | error e =>
      simp only [hmod] at h
      cases h
    | ok mod =>
      simp only [hmod] at h
      obtain ⟨r, hr, hsome⟩ := Outcome.bind_ok h
      cases hsome
      have hrun := runVectors_of_transport (Outcome.mapError_ok hr)
      refine ⟨append_drop_of_startsWith hpython, Or.inl hpython, ?_⟩
      rw [(accounts_of_runVectors hrun).ok]
      constructor
      · exact fun hall => ⟨mod, rfl, hall.1, hall.2.1, hall.2.2⟩
      · rintro ⟨mod', hmod', hall⟩
        cases hmod'
        exact ⟨hall.state, hall.illegal, hall.viewBond⟩
  · rw [if_neg hpython] at h
    rw [if_neg hpython]
    by_cases hhttp : (startsWith spec "http:" || startsWith spec "https:") = true
    · rw [if_pos hhttp] at h
      cases h
      exact ⟨rfl, Or.inr (Bool.or_eq_true_iff.mp hhttp), runHttpTransport_ok_iff _ _ _ _ _ _ _⟩
    · rw [if_neg hhttp] at h
      cases h

/-- Where nothing was run, the spec is of no transport. -/
theorem runAgainst_none {spec : Py.Str} (h : runAgainst py w stateVectors illegalVectors viewBondVectors spec = .ok none) :
    ¬Known spec := by
  unfold runAgainst at h
  by_cases hpython : startsWith spec "python:" = true
  · rw [if_pos hpython] at h
    cases hmod : w.importModule (spec.drop 7) with
    | error e =>
      simp only [hmod] at h
      cases h
    | ok mod =>
      simp only [hmod] at h
      obtain ⟨r, -, hsome⟩ := Outcome.bind_ok h
      cases hsome
  · rw [if_neg hpython] at h
    by_cases hhttp : (startsWith spec "http:" || startsWith spec "https:") = true
    · rw [if_pos hhttp] at h
      cases h
    · unfold Known
      rw [← Bool.or_eq_true_iff]
      exact not_or.mpr ⟨hpython, hhttp⟩

end Specs

/-! ## Issued certificates -/

/-- The fingerprint a reader computes of a certificate's own fields. -/
def recomputed (cert : ConformanceCertificate) : Except Py.Exception String := do
  let subjectBytes ← Py.encodeUtf8 cert.subject
  .ok (Bytes.hex (Sha256.digest (join bar subjectBytes [
    encode (toString cert.issuedAt),
    countFields "s" cert.statePassed cert.stateTotal,
    countFields "i" cert.illegalPassed cert.illegalTotal,
    countFields "v" cert.viewBondPassed cert.viewBondTotal])))

/-- A certificate of a report on a subject: its fingerprint is that of its fields, and it passed exactly when the report is ok. -/
structure Certifies (cert : ConformanceCertificate) (report : ConformanceReport) (subject : Py.Str) : Prop where
  subject : cert.subject = subject
  fingerprint : recomputed cert = .ok cert.fingerprint
  passed : cert.passed = true ↔ report.ok = true
  whole : Whole cert.subject

/-- The body was printed, or written to one file. -/
def Wrote (output : Output) (body : Py.Str) : Prop :=
  output.stdout = [body] ∧ output.files = [] ∨ ∃ path, output.stdout = [] ∧ output.files = [(path, body)]

variable {py : Py.Interpreter} {w : World}

/-- The certificate that is issued of a report certifies it. -/
theorem certifies_of_report {report : ConformanceReport} {subject : Py.Str} {transport : String} {now : Int}
    {cert : ConformanceCertificate} (h : certificateFromReport py report subject transport now = .ok cert) :
    Certifies cert report subject := by
  obtain ⟨fp, hfp, h⟩ := Outcome.bind_ok h
  obtain ⟨input, hinput, hdigest⟩ := Outcome.bind_ok hfp
  obtain ⟨subjectBytes, hsubject, rfl⟩ := fingerprintInput_ok hinput
  cases hdigest
  cases h
  have hpassed : ∀ (n : Int) (lines : List String), n = n + lines.length ↔ lines = [] := by
    intro n lines
    rw [← List.length_eq_zero_iff]
    omega
  refine ⟨rfl, ?_, ?_, ?_⟩
  · simp only [recomputed, hsubject, Outcome.ok_bind, inputFields]
  · simp only [ConformanceCertificate.passed, decide_eq_true_eq, hpassed, ConformanceReport.ok_iff]
  · obtain ⟨chars, rfl, -⟩ := Py.encodeUtf8_ok hsubject
    exact whole_ofChars chars

/-- A signature changes nothing else. -/
theorem Certifies.signed {cert cert' : ConformanceCertificate} {report : ConformanceReport} {subject : Py.Str}
    (h : Certifies cert report subject) {signWith : Option Py.Str} (hsigned : signed w cert signWith = .ok cert') :
    Certifies cert' report subject := by
  unfold Python.signed at hsigned
  split at hsigned
  · obtain ⟨signature, -, hcert⟩ := Outcome.bind_ok hsigned
    cases hcert
    exact ⟨h.subject, h.fingerprint, h.passed, h.whole⟩
  · cases hsigned
    exact h

/-- `emit` writes the body to one place. -/
theorem wrote_of_emit {body : Py.Str} {out : Option Py.Str} {stderr : List String} {output : Output}
    (h : emit w body out stderr = .ok output) : Wrote output body := by
  unfold emit at h
  split at h
  · obtain ⟨-, -, h⟩ := Outcome.bind_ok h
    cases h
    exact Or.inr ⟨_, rfl, rfl⟩
  · cases h
    exact Or.inl ⟨rfl, rfl⟩

/-- The exit code of a report is zero exactly when it is ok. -/
theorem exitCode_eq_zero_iff {report : ConformanceReport} : exitCode report = 0 ↔ report.ok = true := by
  unfold exitCode
  split
  · rename_i h
    exact iff_of_true rfl h
  · rename_i h
    exact iff_of_false (by decide) h

/-- A certificate of the report was written, and the exit code is that of the report. -/
structure Certified (py : Py.Interpreter) (report : ConformanceReport) (subject : Py.Str) (code : Nat) (output : Output) :
    Prop where
  code : code = exitCode report
  certificate : ∃ cert body, Certifies cert report subject ∧ dumpCertificate py cert true = .ok body ∧ Wrote output body

/-- What `certify` ends with is the exit code of the report, after its certificate was written. -/
theorem certified_of_certify {report : ConformanceReport} {subject : Py.Str} {transport : String}
    {signWith out : Option Py.Str} {summary : String} {code : Nat} {output : Output}
    (h : certify py w report subject transport signWith out summary = .ok (code, output)) :
    Certified py report subject code output := by
  obtain ⟨cert, hcert, h⟩ := Outcome.bind_ok h
  obtain ⟨cert', hsigned, h⟩ := Outcome.bind_ok h
  obtain ⟨body, hbody, h⟩ := Outcome.bind_ok h
  obtain ⟨written, hwritten, h⟩ := Outcome.bind_ok h
  cases h
  exact ⟨rfl, cert', body, (certifies_of_report hcert).signed hsigned, hbody, wrote_of_emit hwritten⟩

/-! ## The whole program -/

section Main

variable {stateVectors : List StateVector} {illegalVectors : List IllegalVector} {viewBondVectors : List ViewBondVector}

/-- How a command ends that returns. -/
inductive Ending (py : Py.Interpreter) (w : World) (stateVectors : List StateVector) (illegalVectors : List IllegalVector)
    (viewBondVectors : List ViewBondVector) : Command → Nat → Output → Prop
  | tested {report cert signWith out stderr} : runSelfTest py stateVectors illegalVectors viewBondVectors = .ok report →
      Ending py w stateVectors illegalVectors viewBondVectors (.selfTest cert signWith out) (exitCode report) { stderr := stderr }
  | certified {report cert signWith out code output} :
      runSelfTest py stateVectors illegalVectors viewBondVectors = .ok report →
      Certified py report (Py.Str.ofString "telaro-ars reference (python)") code output →
      Ending py w stateVectors illegalVectors viewBondVectors (.selfTest cert signWith out) code output
  | unknown {spec signWith out stderr} : ¬Known spec →
      Ending py w stateVectors illegalVectors viewBondVectors (.run spec signWith out) 2 { stderr := stderr }
  | ran {report spec signWith out code output} : Known spec →
      (report.ok = true ↔ SpecAnswered py w stateVectors illegalVectors viewBondVectors spec) →
      Certified py report spec code output →
      Ending py w stateVectors illegalVectors viewBondVectors (.run spec signWith out) code output
  | dumped {out body output} : dumpVectors py stateVectors illegalVectors viewBondVectors = .ok body → Wrote output body →
      Ending py w stateVectors illegalVectors viewBondVectors (.dumpVectors out) 0 output

/-- Each command that returns ends in one of the ways of `Ending`. -/
theorem main_ends {command : Command} {code : Nat} {output : Output}
    (h : main py w stateVectors illegalVectors viewBondVectors command = .ok (code, output)) :
    Ending py w stateVectors illegalVectors viewBondVectors command code output := by
  unfold main at h
  cases command with
  | selfTest cert signWith out =>
    obtain ⟨report, hreport, h⟩ := Outcome.bind_ok h
    obtain ⟨summary, -, h⟩ := Outcome.bind_ok h
    by_cases hplain : (!cert && (given out).isNone) = true
    · rw [if_pos hplain] at h
      cases h
      exact .tested (Outcome.mapError_ok hreport)
    · rw [if_neg hplain] at h
      exact .certified (Outcome.mapError_ok hreport) (certified_of_certify (Outcome.mapError_ok h))
  | run spec signWith out =>
    obtain ⟨result, hresult, hrest⟩ := Outcome.bind_ok h
    cases result with
    | none =>
      cases hrest
      exact .unknown (runAgainst_none hresult)
    | some result =>
      obtain ⟨report, subject, transport⟩ := result
      obtain ⟨rfl, hknown, hok⟩ := runAgainst_some hresult
      obtain ⟨summary, -, hcertify⟩ := Outcome.bind_ok hrest
      exact .ran hknown hok (certified_of_certify (Outcome.mapError_ok hcertify))
  | dumpVectors out =>
    obtain ⟨body, hbody, h⟩ := Outcome.bind_ok h
    obtain ⟨written, hwritten, h⟩ := Outcome.bind_ok h
    cases h
    exact .dumped (Outcome.mapError_ok hbody) (wrote_of_emit (Outcome.mapError_ok hwritten))

theorem exitCode_lt_two (report : ConformanceReport) : exitCode report < 2 := by
  unfold exitCode
  split <;> decide

/-- What a command says by ending with exit code zero. -/
def Approves (py : Py.Interpreter) (w : World) (stateVectors : List StateVector) (illegalVectors : List IllegalVector)
    (viewBondVectors : List ViewBondVector) : Command → Prop
  | .selfTest _ _ _ => Judged stateVectors illegalVectors viewBondVectors
  | .run spec _ _ => Known spec ∧ SpecAnswered py w stateVectors illegalVectors viewBondVectors spec
  | .dumpVectors _ => True

/-- The command names a spec of no transport. -/
def Misused : Command → Prop
  | .run spec _ _ => ¬Known spec
  | _ => False

/-- The exit code of every command: two, with nothing written, for a spec of no transport; otherwise zero when what was tested
answers every vector, as a dump always does, and one when it does not. -/
theorem exit_code_is_verdict (py : Py.Interpreter) (w : World) (stateVectors : List StateVector)
    (illegalVectors : List IllegalVector) (viewBondVectors : List ViewBondVector) (command : Command) (code : Nat)
    (output : Output) (h : main py w stateVectors illegalVectors viewBondVectors command = .ok (code, output)) :
    code ≤ 2 ∧ (code = 2 ↔ Misused command) ∧ (code = 2 → output.stdout = [] ∧ output.files = []) ∧
      (code = 0 ↔ Approves py w stateVectors illegalVectors viewBondVectors command) := by
  cases main_ends h with
  | @tested report _ _ _ _ hreport =>
    have hlt := exitCode_lt_two report
    refine ⟨by omega, iff_of_false (by omega) id, by omega, ?_⟩
    rw [exitCode_eq_zero_iff]
    exact runSelfTest_ok_iff py hreport
  | @certified report _ _ _ _ _ hreport hcertified =>
    have hlt := exitCode_lt_two report
    obtain ⟨rfl, -⟩ := hcertified
    refine ⟨by omega, iff_of_false (by omega) id, by omega, ?_⟩
    rw [exitCode_eq_zero_iff]
    exact runSelfTest_ok_iff py hreport
  | unknown hunknown =>
    exact ⟨le_rfl, iff_of_true rfl hunknown, fun _ => ⟨rfl, rfl⟩, iff_of_false (by decide) fun happroves => hunknown happroves.1⟩
  | @ran report _ _ _ _ _ hknown hok hcertified =>
    have hlt := exitCode_lt_two report
    obtain ⟨rfl, -⟩ := hcertified
    refine ⟨by omega, iff_of_false (by omega) (not_not.mpr hknown), by omega, ?_⟩
    rw [exitCode_eq_zero_iff, hok]
    exact (and_iff_right hknown).symm
  | dumped _ _ => exact ⟨by decide, iff_of_false (by decide) id, nofun, iff_of_true rfl trivial⟩

/-- What a reader finds in the body a command wrote: the vectors, or a certificate whose fingerprint is that of its own fields,
which is about the spec, and which passed exactly when the command ended with zero. -/
def Tells (stateVectors : List StateVector) (illegalVectors : List IllegalVector) (viewBondVectors : List ViewBondVector)
    (code : Nat) (doc : Py.Value) : Command → Prop
  | .selfTest _ _ _ => ∃ cert, readCertificate doc = some cert ∧ recomputed cert = .ok cert.fingerprint ∧
      cert.subject = Py.Str.ofString "telaro-ars reference (python)" ∧ (cert.passed = true ↔ code = 0)
  | .run spec _ _ => ∃ cert, readCertificate doc = some cert ∧ recomputed cert = .ok cert.fingerprint ∧ cert.subject = spec ∧
      (cert.passed = true ↔ code = 0)
  | .dumpVectors _ => readCorpus doc = some (stateVectors, illegalVectors, viewBondVectors)

/-- A certificate that was written, read. -/
theorem Certified.read {report : ConformanceReport} {subject : Py.Str} {code : Nat} {output : Output}
    (h : Certified py report subject code output) (hdepth : 1 ≤ py.maxDepth) :
    ∃ body doc, Wrote output body ∧ loads py body = .ok doc ∧ ∃ cert, readCertificate doc = some cert ∧
      recomputed cert = .ok cert.fingerprint ∧ cert.subject = subject ∧ (cert.passed = true ↔ code = 0) := by
  obtain ⟨rfl, cert, body, hcertifies, hbody, hwrote⟩ := h
  rw [dumpCertificate, dumpsSorted] at hbody
  refine ⟨body, _, hwrote, loads_dumps (plain_certificate hcertifies.whole) hdepth hbody, cert, readCertificate_sortKeys cert,
    hcertifies.fingerprint, hcertifies.subject, ?_⟩
  rw [hcertifies.passed, exitCode_eq_zero_iff]

/-- Whatever a command writes, to its output or to a file, a reader finds in it what the command's end says. -/
theorem output_tells (py : Py.Interpreter) (w : World) (stateVectors : List StateVector)
    (illegalVectors : List IllegalVector) (viewBondVectors : List ViewBondVector) (command : Command) (code : Nat)
    (output : Output) (hdepth : 5 ≤ py.maxDepth)
    (h : main py w stateVectors illegalVectors viewBondVectors command = .ok (code, output)) :
    (output.stdout = [] ∧ output.files = []) ∨ ∃ body doc, Wrote output body ∧ loads py body = .ok doc ∧
      Tells stateVectors illegalVectors viewBondVectors code doc command := by
  cases main_ends h with
  | tested _ => exact Or.inl ⟨rfl, rfl⟩
  | certified _ hcertified => exact Or.inr (hcertified.read (by omega))
  | unknown _ => exact Or.inl ⟨rfl, rfl⟩
  | ran _ _ hcertified => exact Or.inr (hcertified.read (by omega))
  | dumped hbody hwrote =>
    have hread := loads_dumps (plain_asJson stateVectors illegalVectors viewBondVectors) hdepth hbody
    exact Or.inr ⟨_, _, hwrote, hread, readCorpus_asJson stateVectors illegalVectors viewBondVectors⟩

end Main

/-! ## The program on the corpus -/

namespace MainExample

/-- A world without modules, endpoints and keypairs. -/
def offline : World where
  importModule _ := .error ⟨.other "ModuleNotFoundError", ""⟩
  post _ _ _ := .error ⟨.other "ConnectionError", ""⟩
  repr _ := .ok []
  now := 1700000000
  sign _ _ := .error ⟨.other "FileNotFoundError", ""⟩
  write _ _ := .ok ()

/-- The self test of the corpus, with a certificate. -/
def certifyCorpus : Except Ended (Nat × Output) :=
  main default offline STATE_VECTORS ILLEGAL_VECTORS VIEW_BOND_VECTORS (.selfTest true none none)

/-- It ends with zero and writes to its output. -/
theorem certifyCorpus_ends : ∃ output, certifyCorpus = .ok (0, output) ∧ output.stdout ≠ [] := by
  have hends : (certifyCorpus.toOption.any fun ended => ended.1 = 0 ∧ ended.2.stdout ≠ []) = true := by decide +kernel
  cases h : certifyCorpus with
  | error e =>
    rw [h] at hends
    cases hends
  | ok ended =>
    obtain ⟨code, output⟩ := ended
    rw [h] at hends
    obtain ⟨rfl, hstdout⟩ : code = 0 ∧ output.stdout ≠ [] := of_decide_eq_true hends
    exact ⟨output, rfl, hstdout⟩

/-- The self test ends with zero, so the corpus is what the lifecycle says. -/
theorem exit_code_of_corpus :
    (∃ output, certifyCorpus = .ok (0, output)) ∧ Judged STATE_VECTORS ILLEGAL_VECTORS VIEW_BOND_VECTORS := by
  obtain ⟨output, h, -⟩ := certifyCorpus_ends
  exact ⟨⟨output, h⟩, (exit_code_is_verdict default offline _ _ _ _ 0 output h).2.2.2.mp rfl⟩

/-- What it writes is a certificate that passed. -/
theorem output_of_corpus : ∃ output body doc cert, certifyCorpus = .ok (0, output) ∧ Wrote output body ∧
    loads default body = .ok doc ∧ readCertificate doc = some cert ∧ cert.passed = true := by
  obtain ⟨output, h, hstdout⟩ := certifyCorpus_ends
  rcases output_tells default offline _ _ _ _ 0 output (by decide) h with hnone | ⟨body, doc, hwrote, hloads, cert, hread, hcert⟩
  · exact absurd hnone.1 hstdout
  · exact ⟨output, body, doc, cert, h, hwrote, hloads, hread, hcert.2.2.mpr rfl⟩

end MainExample

end ArsSolana.Python
