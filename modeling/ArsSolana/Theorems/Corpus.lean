import ArsSolana.Lemmas.Wire
import ArsSolana.Python.Cli

/-!
# The dumped corpus is read back

`dump-vectors` writes the vectors for implementations in other languages. The dictionaries of the events carry their tags, so what
a reader makes of the text is the vectors, whatever they are.
-/

namespace ArsSolana.Python

open Py.Json

/-! ## A reader -/

def readStateVector (v : Py.Value) : Option StateVector := do
  let entries ← entriesOf v
  let name ← textOf (Py.get entries "name")
  let expectedState ← textOf (Py.get entries "expected_state")
  let expectedReleasedAtomic ← intOf (Py.get entries "expected_released_atomic")
  let log ← readLog (Py.get entries "log")
  some ⟨name, log, expectedState, expectedReleasedAtomic⟩

def readIllegalVector (v : Py.Value) : Option IllegalVector := do
  let entries ← entriesOf v
  let name ← textOf (Py.get entries "name")
  let log ← readLog (Py.get entries "log")
  some ⟨name, log⟩

def readViewBondVector (v : Py.Value) : Option ViewBondVector := do
  let entries ← entriesOf v
  let name ← textOf (Py.get entries "name")
  let minBondAtomic ← intOf (Py.get entries "min_bond_atomic")
  let minScore ← intOf (Py.get entries "min_score")
  let expectedDataHex ← textOf (Py.get entries "expected_data_hex")
  some ⟨name, minBondAtomic, minScore, expectedDataHex⟩

/-- The three sets of vectors of a suite. -/
def readCorpus (v : Py.Value) : Option (List StateVector × List IllegalVector × List ViewBondVector) := do
  let entries ← entriesOf v
  let stateVectors ← (← itemsOf (Py.get entries "state_vectors")).mapM readStateVector
  let illegalVectors ← (← itemsOf (Py.get entries "illegal_vectors")).mapM readIllegalVector
  let viewBondVectors ← (← itemsOf (Py.get entries "view_bond_vectors")).mapM readViewBondVector
  some (stateVectors, illegalVectors, viewBondVectors)

/-- The vectors are read from the suite. -/
theorem readCorpus_asJson (stateVectors : List StateVector) (illegalVectors : List IllegalVector)
    (viewBondVectors : List ViewBondVector) :
    readCorpus (asJson stateVectors illegalVectors viewBondVectors) = some (stateVectors, illegalVectors, viewBondVectors) := by
  have hstate : ∀ v : StateVector, readStateVector (Py.record [
      ("name", jsonText v.name), ("expected_state", jsonText v.expectedState),
      ("expected_released_atomic", .int v.expectedReleasedAtomic), ("log", logDicts v.log)]) = some v := by
    intro v
    simp [readStateVector, Py.get_entries, readLog_logDicts]
  have hillegal : ∀ v : IllegalVector,
      readIllegalVector (Py.record [("name", jsonText v.name), ("log", logDicts v.log)]) = some v := by
    intro v
    simp [readIllegalVector, Py.get_entries, readLog_logDicts]
  have hviewBond : ∀ v : ViewBondVector, readViewBondVector (Py.record [
      ("name", jsonText v.name), ("min_bond_atomic", .int v.minBondAtomic), ("min_score", .int v.minScore),
      ("expected_data_hex", jsonText v.expectedDataHex)]) = some v := by
    intro v
    simp [readViewBondVector, Py.get_entries]
  simp [readCorpus, asJson, Py.get_entries, mapM_map hstate, mapM_map hillegal, mapM_map hviewBond]

/-- A suite goes through JSON as it is. -/
theorem plain_asJson (stateVectors : List StateVector) (illegalVectors : List IllegalVector)
    (viewBondVectors : List ViewBondVector) : Plain 5 (asJson stateVectors illegalVectors viewBondVectors) := by
  have hlist : ∀ {α : Type} {vs : List α} {f : α → Py.Value}, (∀ v, Plain 3 (f v)) → Plain 4 (.list (vs.map f)) := by
    intro α vs f h
    refine .list ?_
    intro x hx
    obtain ⟨v, -, rfl⟩ := List.mem_map.mp hx
    exact h v
  have hlog : ∀ log, Plain 2 (logDicts log) := plain_logDicts
  refine plain_record (by simp) ?_
  simp only [List.forall_mem_cons, List.not_mem_nil, false_implies, implies_true, and_true]
  refine ⟨plain_jsonText 4 _, hlist ?state, hlist ?illegal, hlist ?viewBond⟩
  case state =>
    intro v
    exact plain_record (by simp) (by simp [plain_jsonText, Plain.int, hlog])
  case illegal =>
    intro v
    exact plain_record (by simp) (by simp [plain_jsonText, hlog])
  case viewBond =>
    intro v
    exact plain_record (by simp) (by simp [plain_jsonText, Plain.int])

/-- The text of the suite says what the vectors are: read as JSON it is the suite, and the vectors are read from that. -/
theorem corpus_read_back (py : Py.Interpreter) (stateVectors : List StateVector) (illegalVectors : List IllegalVector)
    (viewBondVectors : List ViewBondVector) (text : Py.Str) (hdepth : 5 ≤ py.maxDepth)
    (htext : dumpVectors py stateVectors illegalVectors viewBondVectors = .ok text) :
    loads py text = .ok (asJson stateVectors illegalVectors viewBondVectors) ∧
      readCorpus (asJson stateVectors illegalVectors viewBondVectors) = some (stateVectors, illegalVectors, viewBondVectors) :=
  ⟨loads_dumps (plain_asJson stateVectors illegalVectors viewBondVectors) hdepth htext,
    readCorpus_asJson stateVectors illegalVectors viewBondVectors⟩

theorem dumpVectors_corpus : dumpVectors default STATE_VECTORS ILLEGAL_VECTORS VIEW_BOND_VECTORS =
    .ok (write (Py.Interpreter.floatText default) (some 2) 0 (asJson STATE_VECTORS ILLEGAL_VECTORS VIEW_BOND_VECTORS)) :=
  dumps_ok_iff.mpr ⟨by decide +kernel, rfl⟩

/-- The corpus of the profile. -/
theorem corpus_read_back_profile : ∃ text, dumpVectors default STATE_VECTORS ILLEGAL_VECTORS VIEW_BOND_VECTORS = .ok text ∧
    loads default text = .ok (asJson STATE_VECTORS ILLEGAL_VECTORS VIEW_BOND_VECTORS) :=
  ⟨_, dumpVectors_corpus, (corpus_read_back default _ _ _ _ (by decide) dumpVectors_corpus).1⟩

end ArsSolana.Python
