import ArsSolana.Library.Delimited
import ArsSolana.Python.Certificate

/-!
# The fingerprint commits to what it covers

The subject comes first and may hold anything, also what looks like the rest of the text. The rest is read from the right: a
decimal number has neither of the two delimiters in it, so five fields behind `|`, three of them split once more by `/`, leave one
subject, one time and one pair of numbers for each set of vectors.
-/

namespace ArsSolana.Python

open Delimited

/-- The byte of `|`. -/
def bar : UInt8 := 0x7C

/-- The byte of `/`. -/
def slash : UInt8 := 0x2F

/-! ## Text of the interpreter -/

theorem encode_append (a b : String) : encode (a ++ b) = encode a ++ encode b := by
  rw [encode, String.toList_append, Py.utf8Bytes_append]
  rfl

/-- Text is known by its bytes. -/
theorem encode_injective : Function.Injective encode := by
  intro a b h
  exact String.toList_inj.mp (Py.utf8Bytes_injective h)

/-- The text of an integer has no `|` in it. -/
theorem bar_free (n : Int) : bar ∉ encode (toString n) := by
  intro h
  have hdecimal := Py.isDecimal_toString n bar h
  unfold Py.IsDecimal bar at hdecimal
  exact absurd hdecimal (by decide)

/-- Nor has it a `/`. -/
theorem slash_free (n : Int) : slash ∉ encode (toString n) := by
  intro h
  have hdecimal := Py.isDecimal_toString n slash h
  unfold Py.IsDecimal slash at hdecimal
  exact absurd hdecimal (by decide)

/-- An integer is known by the bytes of its text. -/
theorem encode_toString_injective {m n : Int} (h : encode (toString m) = encode (toString n)) : m = n :=
  Int.repr_injective (encode_injective h)

variable {py py' : Py.Interpreter}

/-- What the interpreter writes of an integer is its decimal text. -/
theorem strOfInt_ok {n : Int} {text : String} (h : py.strOfInt n = .ok text) : text = toString n := by
  unfold Py.Interpreter.strOfInt at h
  split at h
  · exact (Except.ok.inj h).symm
  · cases h

/-! ## The counts of one set -/

/-- The counts as a head and one field. -/
def countFields (letter : String) (passed total : Int) : Bytes :=
  join slash (encode letter ++ encode (toString passed)) [encode (toString total)]

/-- The bytes of the counts are the letter with the passed number, and behind `/` the total. -/
theorem countBytes_ok {letter : String} {passed : Int} {failed : List String} {bytes : Bytes}
    (h : countBytes py letter passed failed = .ok bytes) : bytes = countFields letter passed (passed + failed.length) := by
  obtain ⟨passedText, hpassed, hrest⟩ := Outcome.bind_ok h
  obtain ⟨totalText, htotal, hbytes⟩ := Outcome.bind_ok hrest
  obtain rfl := strOfInt_ok hpassed
  obtain rfl := strOfInt_ok htotal
  cases hbytes
  have hslash : encode "/" = [slash] := rfl
  simp only [toString, encode_append, hslash, countFields, join]
  simp

/-- Both counts are read off their bytes. -/
theorem countFields_injective {letter : String} {passed passed' total total' : Int}
    (h : countFields letter passed total = countFields letter passed' total') : passed = passed' ∧ total = total' := by
  have hfree : ∀ n : Int, ∀ f ∈ [encode (toString n)], slash ∉ f := by
    intro n f hf
    rw [List.mem_singleton.mp hf]
    exact slash_free n
  obtain ⟨hhead, hfield⟩ := join_injective (by rfl) (hfree total) (hfree total') h
  exact ⟨encode_toString_injective (List.append_cancel_left hhead), encode_toString_injective (List.cons.inj hfield).1⟩

/-- The bytes of the counts have no `|` in them. -/
theorem bar_free_countFields {letter : String} (hletter : bar ∉ encode letter) (passed total : Int) :
    bar ∉ countFields letter passed total := by
  have hslash : bar ≠ slash := by decide
  simp only [countFields, join, List.flatMap_cons, List.flatMap_nil, List.append_nil, List.mem_append, List.mem_cons, not_or]
  exact ⟨⟨hletter, bar_free passed⟩, hslash, bar_free total⟩

/-! ## The whole input -/

/-- The fields behind the subject. -/
def inputFields (report : ConformanceReport) (issuedAt : Int) : List Bytes := [
  encode (toString issuedAt),
  countFields "s" report.statePassed (report.statePassed + report.stateFailed.length),
  countFields "i" report.illegalPassed (report.illegalPassed + report.illegalFailed.length),
  countFields "v" report.viewBondPassed (report.viewBondPassed + report.viewBondFailed.length)]

/-- The input is the subject with four fields behind `|`. -/
theorem fingerprintInput_ok {report : ConformanceReport} {subject : Py.Str} {issuedAt : Int} {input : Bytes}
    (h : fingerprintInput py report subject issuedAt = .ok input) :
    ∃ subjectBytes, Py.encodeUtf8 subject = .ok subjectBytes ∧ input = join bar subjectBytes (inputFields report issuedAt) := by
  obtain ⟨subjectBytes, hsubject, h⟩ := Outcome.bind_ok h
  obtain ⟨issuedText, hissued, h⟩ := Outcome.bind_ok h
  obtain ⟨state, hstate, h⟩ := Outcome.bind_ok h
  obtain ⟨illegal, hillegal, h⟩ := Outcome.bind_ok h
  obtain ⟨viewBond, hviewBond, h⟩ := Outcome.bind_ok h
  obtain rfl := strOfInt_ok hissued
  obtain rfl := countBytes_ok hstate
  obtain rfl := countBytes_ok hillegal
  obtain rfl := countBytes_ok hviewBond
  cases h
  have hbar : encode "|" = [bar] := rfl
  refine ⟨subjectBytes, hsubject, ?_⟩
  simp [join, inputFields, hbar]

/-- The counts are written exactly when the interpreter writes both numbers. -/
theorem countBytes_isOk_iff {letter : String} {passed : Int} {failed : List String} :
    (∃ bytes, countBytes py letter passed failed = .ok bytes) ↔ py.Printable passed ∧ py.Printable (passed + failed.length) := by
  unfold countBytes
  rw [Outcome.bind_isOk_iff, ← py.strOfInt_isOk_iff, ← py.strOfInt_isOk_iff]
  constructor
  · rintro ⟨passedText, hpassed, hrest⟩
    obtain ⟨totalText, htotal, -⟩ := Outcome.bind_isOk_iff.mp hrest
    exact ⟨⟨passedText, hpassed⟩, totalText, htotal⟩
  · rintro ⟨⟨passedText, hpassed⟩, totalText, htotal⟩
    exact ⟨passedText, hpassed, Outcome.bind_isOk_iff.mpr ⟨totalText, htotal, _, rfl⟩⟩

/-- There is an input exactly when the subject is text of characters and the interpreter writes the time and the six counts. -/
theorem fingerprintInput_isOk_iff {report : ConformanceReport} {subject : Py.Str} {issuedAt : Int} :
    (∃ input, fingerprintInput py report subject issuedAt = .ok input) ↔
      (∃ chars : List Char, subject = chars.map Py.CodePoint.ofChar) ∧ py.Printable issuedAt ∧
      (py.Printable report.statePassed ∧ py.Printable (report.statePassed + report.stateFailed.length)) ∧
      (py.Printable report.illegalPassed ∧ py.Printable (report.illegalPassed + report.illegalFailed.length)) ∧
      (py.Printable report.viewBondPassed ∧ py.Printable (report.viewBondPassed + report.viewBondFailed.length)) := by
  unfold fingerprintInput
  constructor
  · intro h
    obtain ⟨subjectBytes, hsubject, h⟩ := Outcome.bind_isOk_iff.mp h
    obtain ⟨issuedText, hissued, h⟩ := Outcome.bind_isOk_iff.mp h
    obtain ⟨state, hstate, h⟩ := Outcome.bind_isOk_iff.mp h
    obtain ⟨illegal, hillegal, h⟩ := Outcome.bind_isOk_iff.mp h
    obtain ⟨viewBond, hviewBond, -⟩ := Outcome.bind_isOk_iff.mp h
    exact ⟨Py.encodeUtf8_isOk_iff.mp ⟨_, hsubject⟩, py.strOfInt_isOk_iff.mp ⟨_, hissued⟩,
      countBytes_isOk_iff.mp ⟨_, hstate⟩, countBytes_isOk_iff.mp ⟨_, hillegal⟩, countBytes_isOk_iff.mp ⟨_, hviewBond⟩⟩
  · rintro ⟨hsubject, hissued, hstate, hillegal, hviewBond⟩
    obtain ⟨subjectBytes, hsubject⟩ := Py.encodeUtf8_isOk_iff.mpr hsubject
    obtain ⟨issuedText, hissued⟩ := py.strOfInt_isOk_iff.mpr hissued
    obtain ⟨state, hstate⟩ := countBytes_isOk_iff.mpr hstate
    obtain ⟨illegal, hillegal⟩ := countBytes_isOk_iff.mpr hillegal
    obtain ⟨viewBond, hviewBond⟩ := countBytes_isOk_iff.mpr hviewBond
    rw [hsubject, hissued, hstate, hillegal, hviewBond]
    exact ⟨_, rfl⟩

/-- None of the four has a `|` in it. -/
theorem bar_free_inputFields (report : ConformanceReport) (issuedAt : Int) : ∀ f ∈ inputFields report issuedAt, bar ∉ f := by
  intro f hf
  simp only [inputFields, List.mem_cons, List.not_mem_nil, or_false] at hf
  rcases hf with rfl | rfl | rfl | rfl
  · exact bar_free issuedAt
  · exact bar_free_countFields (by decide) _ _
  · exact bar_free_countFields (by decide) _ _
  · exact bar_free_countFields (by decide) _ _

/-- Two reports with the same pass and total counts in all three sets. -/
structure SameCounts (r r' : ConformanceReport) : Prop where
  statePassed : r.statePassed = r'.statePassed
  stateTotal : r.statePassed + r.stateFailed.length = r'.statePassed + r'.stateFailed.length
  illegalPassed : r.illegalPassed = r'.illegalPassed
  illegalTotal : r.illegalPassed + r.illegalFailed.length = r'.illegalPassed + r'.illegalFailed.length
  viewBondPassed : r.viewBondPassed = r'.viewBondPassed
  viewBondTotal : r.viewBondPassed + r.viewBondFailed.length = r'.viewBondPassed + r'.viewBondFailed.length

/-- The time and the counts are read off the four fields. -/
theorem inputFields_injective {r r' : ConformanceReport} {issuedAt issuedAt' : Int}
    (h : inputFields r issuedAt = inputFields r' issuedAt') : issuedAt = issuedAt' ∧ SameCounts r r' := by
  simp only [inputFields, List.cons.injEq, and_true] at h
  obtain ⟨hissued, hstate, hillegal, hviewBond⟩ := h
  obtain ⟨hstatePassed, hstateTotal⟩ := countFields_injective hstate
  obtain ⟨hillegalPassed, hillegalTotal⟩ := countFields_injective hillegal
  obtain ⟨hviewBondPassed, hviewBondTotal⟩ := countFields_injective hviewBond
  exact ⟨encode_toString_injective hissued, hstatePassed, hstateTotal, hillegalPassed, hillegalTotal, hviewBondPassed,
    hviewBondTotal⟩

/-- What is hashed determines the subject, the time of issue and the counts. -/
theorem fingerprintInput_injective {r r' : ConformanceReport} {subject subject' : Py.Str} {issuedAt issuedAt' : Int}
    {input : Bytes} (h : fingerprintInput py r subject issuedAt = .ok input)
    (h' : fingerprintInput py' r' subject' issuedAt' = .ok input) :
    subject = subject' ∧ issuedAt = issuedAt' ∧ SameCounts r r' := by
  obtain ⟨subjectBytes, hsubject, hinput⟩ := fingerprintInput_ok h
  obtain ⟨subjectBytes', hsubject', hinput'⟩ := fingerprintInput_ok h'
  obtain ⟨hhead, hfields⟩ := join_injective (by rfl) (bar_free_inputFields r issuedAt) (bar_free_inputFields r' issuedAt')
    (hinput.symm.trans hinput')
  subst hhead
  exact ⟨Py.encodeUtf8_injective hsubject hsubject', inputFields_injective hfields⟩

/-! ## Certificates -/

/-- A certificate that was issued: its fingerprint is the hash of an input, and its numbers are those of the report. -/
theorem certificateFromReport_ok {report : ConformanceReport} {subject : Py.Str} {transport : String} {now : Int}
    {cert : ConformanceCertificate} (h : certificateFromReport py report subject transport now = .ok cert) :
    ∃ input, fingerprintInput py report subject now = .ok input ∧ cert.fingerprint = Bytes.hex (Sha256.digest input) ∧
      cert.subject = subject ∧
      (cert.passed = true ↔ report.statePassed = report.statePassed + report.stateFailed.length ∧
        report.illegalPassed = report.illegalPassed + report.illegalFailed.length ∧
        report.viewBondPassed = report.viewBondPassed + report.viewBondFailed.length) := by
  obtain ⟨fp, hfp, h⟩ := Outcome.bind_ok h
  obtain ⟨input, hinput, hdigest⟩ := Outcome.bind_ok hfp
  cases hdigest
  cases h
  exact ⟨input, hinput, rfl, rfl, decide_eq_true_iff⟩

/-- The bytes that are hashed determine the subject, the time of issue and all counts; so two certificates with one fingerprint,
whose inputs are no collision of the hash, have one subject and one verdict. -/
theorem fingerprint_commits :
    (∀ (py py' : Py.Interpreter) (r r' : ConformanceReport) (subject subject' : Py.Str) (issuedAt issuedAt' : Int)
      (input : Bytes), fingerprintInput py r subject issuedAt = .ok input →
      fingerprintInput py' r' subject' issuedAt' = .ok input →
      subject = subject' ∧ issuedAt = issuedAt' ∧ SameCounts r r') ∧
    ∀ (py py' : Py.Interpreter) (r r' : ConformanceReport) (subject subject' : Py.Str) (transport transport' : String)
      (now now' : Int) (cert cert' : ConformanceCertificate), certificateFromReport py r subject transport now = .ok cert →
      certificateFromReport py' r' subject' transport' now' = .ok cert' →
      (∀ input input', fingerprintInput py r subject now = .ok input → fingerprintInput py' r' subject' now' = .ok input' →
        Sha256.digest input = Sha256.digest input' → input = input') →
      cert.fingerprint = cert'.fingerprint → cert.subject = cert'.subject ∧ cert.passed = cert'.passed := by
  refine ⟨fun _ _ _ _ _ _ _ _ _ h h' => fingerprintInput_injective h h', ?_⟩
  intro py py' r r' subject subject' transport transport' now now' cert cert' h h' hcollision hfingerprint
  obtain ⟨input, hinput, hfp, hsubject, hpassed⟩ := certificateFromReport_ok h
  obtain ⟨input', hinput', hfp', hsubject', hpassed'⟩ := certificateFromReport_ok h'
  rw [hfp, hfp'] at hfingerprint
  obtain rfl := hcollision input input' hinput hinput' (Bytes.hex_injective hfingerprint)
  obtain ⟨hsame, -, hcounts⟩ := fingerprintInput_injective hinput hinput'
  refine ⟨by rw [hsubject, hsubject', hsame], ?_⟩
  rw [Bool.eq_iff_iff, hpassed, hpassed', hcounts.stateTotal, hcounts.illegalTotal, hcounts.viewBondTotal,
    hcounts.statePassed, hcounts.illegalPassed, hcounts.viewBondPassed]

namespace FingerprintExample

def report : ConformanceReport := { statePassed := 1, illegalPassed := 2, viewBondPassed := 3 }

def subject : Py.Str := Py.Str.ofString "acme"

/-- The subject, and behind it what looks like the rest of an input. -/
def forged : Py.Str := Py.Str.ofString "acme|7|s1/1|i2/2|v3/3"

theorem input_exists (chars : List Char) :
    ∃ input, fingerprintInput default report (chars.map Py.CodePoint.ofChar) 7 = .ok input :=
  fingerprintInput_isOk_iff.mpr ⟨⟨chars, rfl⟩, by decide, by decide, by decide, by decide⟩

/-- A subject that ends in a whole fake input is told apart, and the certificates of one report on one subject agree whatever the
transport. -/
theorem forged_told_apart :
    (∃ input input', fingerprintInput default report subject 7 = .ok input ∧
        fingerprintInput default report forged 7 = .ok input' ∧ input ≠ input') ∧
      ∃ cert cert', certificateFromReport default report subject "python" 7 = .ok cert ∧
        certificateFromReport default report subject "http" 7 = .ok cert' ∧ cert ≠ cert' ∧ cert.passed = cert'.passed := by
  obtain ⟨input, hinput⟩ : ∃ input, fingerprintInput default report subject 7 = .ok input := input_exists "acme".toList
  obtain ⟨input', hinput'⟩ : ∃ input, fingerprintInput default report forged 7 = .ok input :=
    input_exists "acme|7|s1/1|i2/2|v3/3".toList
  refine ⟨⟨input, input', hinput, hinput', ?_⟩, ?_⟩
  · rintro rfl
    have hsame := (fingerprint_commits.1 _ _ _ _ _ _ _ _ _ hinput hinput').1
    exact absurd hsame (by decide)
  · have hfingerprint : fingerprint default report subject 7 = .ok (Bytes.hex (Sha256.digest input)) := by
      rw [fingerprint, hinput]
      rfl
    have hcert : ∀ transport, ∃ cert, certificateFromReport default report subject transport 7 = .ok cert ∧
        cert.transport = transport ∧ cert.fingerprint = Bytes.hex (Sha256.digest input) := by
      intro transport
      simp only [certificateFromReport, hfingerprint, Outcome.ok_bind]
      exact ⟨_, rfl, rfl, rfl⟩
    obtain ⟨cert, hissued, htransport, hfp⟩ := hcert "python"
    obtain ⟨cert', hissued', htransport', hfp'⟩ := hcert "http"
    have hsame := fingerprint_commits.2 _ _ _ _ _ _ _ _ _ _ cert cert' hissued hissued'
      (fun i i' h h' _ => Except.ok.inj (h.symm.trans h')) (hfp.trans hfp'.symm)
    refine ⟨cert, cert', hissued, hissued', ?_, hsame.2⟩
    rintro rfl
    exact absurd (htransport.symm.trans htransport') (by decide)

end FingerprintExample

end ArsSolana.Python
