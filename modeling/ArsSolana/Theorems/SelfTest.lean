import ArsSolana.Lemmas.PythonTrack
import ArsSolana.Python.SelfTest
import ArsSolana.Theorems.Conformance

/-!
# What the self test says of a corpus

The self test is the harness run on the reference. It judges the vectors by the lifecycle: a log and a state belong together when
the log begins a complete lifecycle of one job and its last event leads to that state, and a log must be refused when it begins
none.
-/

namespace ArsSolana.Python

open Tally

variable (py : Py.Interpreter)

/-! ## The judgement of the lifecycle -/

/-- The log begins a complete lifecycle of one job. -/
def Begins (log : List ArsEvent) : Prop :=
  log ≠ [] ∧ (∃ id, ∀ e ∈ log, e.jobId = id) ∧ ∃ full, Complete full ∧ log.map ArsEvent.letter <+: full

/-- The vector says what its log leads to. -/
structure Prescribed (v : StateVector) : Prop where
  begins : Begins v.log
  state : ∀ e ∈ v.log.getLast?, e.letter.state.text = v.expectedState
  released : (v.log.map fun e => e.move.amount).sum = v.expectedReleasedAtomic

/-- The numbers of a vector fit the instruction. -/
def Fits (v : ViewBondVector) : Prop := (0 ≤ v.minBondAtomic ∧ v.minBondAtomic < 2 ^ 64) ∧ 0 ≤ v.minScore ∧ v.minScore < 2 ^ 16

/-- The bytes of `view_bond` with the numbers of a vector. -/
def viewBondBytes (v : ViewBondVector) : Bytes :=
  disc "view_bond" ++ Bytes.toLE 8 v.minBondAtomic.toNat ++ Bytes.toLE 2 v.minScore.toNat

/-- The logs that replay are those that begin a lifecycle. -/
theorem begins_iff {log : List ArsEvent} : (∃ job, replay log = .ok job) ↔ Begins log := by
  rw [(replay_refines log).isOk_iff, track_accepts_iff]
  simp only [Begins, ne_eq, List.map_eq_nil_iff, List.mem_map, forall_exists_index, and_imp, forall_apply_eq_imp_iff₂,
    List.map_map, Function.comp_def]
  rfl

/-- What a replayed job says is what the log leads to. -/
theorem prescribed_iff {v : StateVector} {job : Job} (h : replay v.log = .ok job) :
    Prescribed v ↔ job.state.text = v.expectedState ∧ job.releasedAtomic = v.expectedReleasedAtomic := by
  have hderives := replay_refines.derives h
  have hbegins : Begins v.log := begins_iff.mp ⟨job, h⟩
  have hreleased : job.releasedAtomic = (v.log.map fun e => e.move.amount).sum := by
    have hsum := hderives.released
    rw [List.map_map] at hsum
    exact hsum
  obtain ⟨e, hlast, -⟩ := replay_refines.last h
  have hstate : job.state = e.letter.state := by
    obtain ⟨log, hlog⟩ : ∃ log, v.log = log ++ [e] := by
      rw [List.getLast?_eq_some_iff] at hlast
      exact hlast
    have hword := hderives.word
    rw [hlog, List.map_append, List.map_append] at hword
    exact run_last hword
  constructor
  · intro hv
    rw [hstate, hreleased]
    exact ⟨hv.state e hlast, hv.released⟩
  · intro hjob
    obtain ⟨hexpected, hamount⟩ := hjob
    refine ⟨hbegins, ?_, hreleased.symm.trans hamount⟩
    intro e' he'
    obtain rfl := Option.some.inj (hlast.symm.trans he')
    rw [← hstate]
    exact hexpected

theorem replay_self_ok {log : List ArsEvent} {job : Job} (h : replay log = .ok job) :
    (selfModule py).replay log = .ok job := congrArg (Except.mapError Sum.inl) h

theorem replay_self_error {log : List ArsEvent} {e : ARSTransitionError} (h : replay log = .error e) :
    (selfModule py).replay log = .error (.inl e) := congrArg (Except.mapError Sum.inl) h

/-- The reference answers a state vector exactly when the vector says what the lifecycle prescribes. -/
theorem answersState_self (v : StateVector) : answersState (selfModule py) v = true ↔ Prescribed v := by
  cases hjob : replay v.log with
  | ok job =>
    rw [answersState_eq (replay_self_ok py hjob), prescribed_iff hjob]
    simp [holds, selfModule]
  | error e =>
    refine iff_of_false (by simp [answersState, replay_self_error py hjob]) ?_
    intro hv
    obtain ⟨job, hreplay⟩ := begins_iff.mpr hv.begins
    rw [hjob] at hreplay
    cases hreplay

/-- The reference answers an illegal vector exactly when its log begins no lifecycle. -/
theorem answersIllegal_self (v : IllegalVector) : answersIllegal (selfModule py) v = true ↔ ¬Begins v.log := by
  rw [← begins_iff]
  cases hjob : replay v.log with
  | ok job => simp [answersIllegal, replay_self_ok py hjob]
  | error e =>
    have hanswers : answersIllegal (selfModule py) v = (selfModule py).isTransitionError (.inl e) := by
      simp only [answersIllegal, replay_self_error py hjob]
    refine iff_of_true (hanswers.trans rfl) ?_
    intro hex
    obtain ⟨job, hreplay⟩ := hex
    cases hreplay

/-- The reference encodes exactly the vectors that fit. -/
theorem buildViewBondIx_ok_iff {v : ViewBondVector} {ix : Instruction} :
    buildViewBondIx ⟨"conformance", conformanceAgent, v.minBondAtomic, v.minScore⟩ PROGRAM_ID_DEVNET = .ok ix ↔
      Fits v ∧ ix = ⟨PROGRAM_ID_DEVNET, [⟨conformanceAgent, false, false⟩], viewBondBytes v⟩ := by
  unfold buildViewBondIx
  by_cases hscore : 0 ≤ v.minScore ∧ v.minScore ≤ 0xFFFF
  · by_cases hbond : 0 ≤ v.minBondAtomic ∧ v.minBondAtomic ≤ 0xFFFFFFFFFFFFFFFF
    · have hfits : Fits v := ⟨by omega, by omega⟩
      rw [if_neg (not_not.mpr hscore), if_neg (not_not.mpr hbond), Except.ok.injEq]
      exact ⟨fun h => ⟨hfits, h.symm⟩, fun h => h.2.symm⟩
    · rw [if_neg (not_not.mpr hscore), if_pos hbond]
      refine iff_of_false nofun ?_
      rintro ⟨hfits, -⟩
      unfold Fits at hfits
      omega
  · rw [if_pos hscore]
    refine iff_of_false nofun ?_
    rintro ⟨hfits, -⟩
    unfold Fits at hfits
    omega

/-- The reference returns the data its builder builds. -/
theorem viewBondData_self_ok {v : ViewBondVector} {ix : Instruction}
    (h : buildViewBondIx ⟨"conformance", conformanceAgent, v.minBondAtomic, v.minScore⟩ PROGRAM_ID_DEVNET = .ok ix) :
    viewBondData (selfModule py) v = .ok ix.data := by
  have hself : (selfModule py).buildViewBondIx ⟨"conformance", conformanceAgent, v.minBondAtomic, v.minScore⟩ = .ok ix :=
    congrArg (Except.mapError Sum.inr) h
  show (selfModule py).buildViewBondIx _ >>= _ = _
  rw [hself]
  rfl

/-- The reference raises what its builder raises. -/
theorem viewBondData_self_error {v : ViewBondVector} {e : Py.Exception}
    (h : buildViewBondIx ⟨"conformance", conformanceAgent, v.minBondAtomic, v.minScore⟩ PROGRAM_ID_DEVNET = .error e) :
    viewBondData (selfModule py) v = .error (.inr e) := by
  have hself : (selfModule py).buildViewBondIx ⟨"conformance", conformanceAgent, v.minBondAtomic, v.minScore⟩ =
      .error (.inr e) := congrArg (Except.mapError Sum.inr) h
  show (selfModule py).buildViewBondIx _ >>= _ = _
  rw [hself]
  rfl

/-- The data of a vector whose numbers fit. -/
theorem viewBondData_self {v : ViewBondVector} (h : Fits v) : viewBondData (selfModule py) v = .ok (viewBondBytes v) :=
  viewBondData_self_ok py (buildViewBondIx_ok_iff.mpr ⟨h, rfl⟩)

/-- The reference encodes a vector exactly when its numbers fit. -/
theorem encodes_self_iff {v : ViewBondVector} : Encodes (selfModule py) v ↔ Fits v := by
  constructor
  · rintro ⟨params, ix, data, hparams, hix, -⟩
    cases hparams
    have hbuild : (buildViewBondIx ⟨"conformance", conformanceAgent, v.minBondAtomic, v.minScore⟩ PROGRAM_ID_DEVNET).mapError
        Sum.inr = (.ok ix : Except (ARSTransitionError ⊕ Py.Exception) Instruction) := hix
    cases hresult : buildViewBondIx ⟨"conformance", conformanceAgent, v.minBondAtomic, v.minScore⟩ PROGRAM_ID_DEVNET with
    | ok ix' => exact (buildViewBondIx_ok_iff.mp hresult).1
    | error e =>
      rw [hresult] at hbuild
      cases hbuild
  · intro h
    exact encodes_iff.mpr ⟨_, viewBondData_self py h⟩

/-- The reference answers a vector exactly when the expected hex is that of the bytes. -/
theorem answersViewBond_self {v : ViewBondVector} (h : Fits v) :
    answersViewBond (selfModule py) v = true ↔ v.expectedDataHex = Bytes.hex (viewBondBytes v) := by
  simp [answersViewBond, viewBondData_self py h, eq_comm]

/-! ## The self test beside the transport -/

/-- A line of the self test and the one of the transport: the same, but for a comma before the released amount. -/
def SameLine (line line' : String) : Prop :=
  line' = line ∨ ∃ front rest, line = front ++ " released=" ++ rest ∧ line' = front ++ ", released=" ++ rest

/-- Two reports that say the same of every vector. -/
structure Alike (r r' : ConformanceReport) : Prop where
  statePassed : r'.statePassed = r.statePassed
  stateFailed : List.Forall₂ SameLine r.stateFailed r'.stateFailed
  illegal : (r'.illegalPassed, r'.illegalFailed) = (r.illegalPassed, r.illegalFailed)
  viewBond : (r'.viewBondPassed, r'.viewBondFailed) = (r.viewBondPassed, r.viewBondFailed)

theorem Alike.pass {r r' : ConformanceReport} (h : Alike r r') :
    Alike { r with statePassed := r.statePassed + 1 } { r' with statePassed := r'.statePassed + 1 } :=
  { h with statePassed := congrArg (· + 1) h.statePassed }

theorem Alike.fail {r r' : ConformanceReport} (h : Alike r r') {line line' : String} (hline : SameLine line line') :
    Alike { r with stateFailed := r.stateFailed ++ [line] } { r' with stateFailed := r'.stateFailed ++ [line'] } :=
  { h with stateFailed := List.rel_append h.stateFailed (.cons hline .nil) }

/-- Reports that are alike are ok together. -/
theorem Alike.ok {r r' : ConformanceReport} (h : Alike r r') : r'.ok = r.ok := by
  have hillegal := (Prod.mk.inj h.illegal).2
  have hviewBond := (Prod.mk.inj h.viewBond).2
  have hstate : r'.stateFailed = [] ↔ r.stateFailed = [] := by
    rw [← List.length_eq_zero_iff, ← h.stateFailed.length_eq, List.length_eq_zero_iff]
  rw [Bool.eq_iff_iff, ConformanceReport.ok_iff, ConformanceReport.ok_iff, hstate, hillegal, hviewBond]

/-- A vector that is answered passes its `try`. -/
theorem tryState_of_answers {mod : TargetModule} {v : StateVector} (h : answersState mod v = true) :
    tryState mod v = .ok none := by
  have htried := tried mod v
  generalize tryState mod v = outcome at htried
  cases htried with
  | raised _ hanswers => simp [hanswers] at h
  | passed => rfl
  | failed hanswers => simp [hanswers] at h

/-- A wrong job is a mismatch, whatever is wrong of it. -/
theorem mismatch_self {v : StateVector} {job : Job}
    (h : ¬(job.state.text = v.expectedState ∧ job.releasedAtomic = v.expectedReleasedAtomic)) :
    Mismatch (selfModule py) v job := by
  by_cases hstate : job.state.text = v.expectedState
  · have hreleased : ¬job.releasedAtomic = v.expectedReleasedAtomic := fun hreleased => h ⟨hstate, hreleased⟩
    exact Or.inr ⟨congrArg Except.ok (decide_eq_true hstate), congrArg Except.ok (decide_eq_false hreleased)⟩
  · exact Or.inl (congrArg Except.ok (decide_eq_false hstate))

/-- A round of the first loop, of both. -/
theorem alike_state {r r' : ConformanceReport} (v : StateVector) (h : Alike r r') :
    ∃ next, runState (selfModule py) r' v = .ok next ∧ Alike (selfState py r v) next := by
  cases hjob : replay v.log with
  | error e =>
    have htry := tryState_of_raisesOn (RaisesOn.replay (replay_self_error py hjob))
    refine ⟨_, by simp only [runState, htry]; rfl, ?_⟩
    simp only [selfState, hjob]
    exact h.fail (Or.inl (by simp [toString, ← String.toList_inj, selfModule]))
  | ok job =>
    have hself := replay_self_ok py hjob
    by_cases hmatch : job.state.text = v.expectedState ∧ job.releasedAtomic = v.expectedReleasedAtomic
    · have htry := tryState_of_answers ((answersState_self py v).mpr ((prescribed_iff hjob).mpr hmatch))
      refine ⟨_, by simp only [runState, htry]; rfl, ?_⟩
      simp only [selfState, hjob, hmatch, and_self, if_true]
      exact h.pass
    · have hmismatch : Mismatch (selfModule py) v job := mismatch_self py hmatch
      cases htext : py.strOfInt job.releasedAtomic with
      | ok released =>
        have hreleased : (selfModule py).releasedText job = .ok released := congrArg (Except.mapError Sum.inr) htext
        have htry := tryState_of_mismatch hself hmismatch
        rw [hreleased] at htry
        refine ⟨_, by simp only [runState, htry]; rfl, ?_⟩
        simp only [selfState, hjob, hmatch, if_false, htext]
        refine h.fail (Or.inr ⟨s!"{v.name}: got state={job.state}", released, ?_, ?_⟩)
        · simp [toString]
        · simp [toString]
      | error e =>
        have hreleased : (selfModule py).releasedText job = .error (.inr e) := congrArg (Except.mapError Sum.inr) htext
        have hstate : (selfModule py).stateText job = .ok job.state.text := rfl
        have htry := tryState_of_raisesOn (.releasedText hself hmismatch hstate hreleased)
        refine ⟨_, by simp only [runState, htry]; rfl, ?_⟩
        simp only [selfState, hjob, hmatch, if_false, htext]
        exact h.fail (Or.inl (by simp [toString, ← String.toList_inj, selfModule]))

/-- A round of the second loop, of both. -/
theorem alike_illegal {r r' : ConformanceReport} (v : IllegalVector) (h : Alike r r') :
    ∃ next, runIllegal (selfModule py) r' v = .ok next ∧ Alike (selfIllegal r v) next := by
  obtain ⟨hpassed, hfailed⟩ := Prod.mk.inj h.illegal
  cases hjob : replay v.log with
  | error e =>
    refine ⟨{ r' with illegalPassed := r'.illegalPassed + 1 }, ?_, ?_⟩
    · simp only [runIllegal, replay_self_error py hjob]
      rfl
    · simp only [selfIllegal, hjob]
      exact { h with illegal := by rw [hpassed, hfailed] }
  | ok job =>
    refine ⟨{ r' with illegalFailed := r'.illegalFailed ++ [s!"{v.name}: should have raised"] }, ?_, ?_⟩
    · simp only [runIllegal, replay_self_ok py hjob]
    · simp only [selfIllegal, hjob]
      exact { h with illegal := by rw [hpassed, hfailed] }

/-- A round of the third loop, of both. -/
theorem alike_viewBond {r r' : ConformanceReport} (v : ViewBondVector) (h : Alike r r') :
    Outcome.Agree (fun e x => x = .inr e) Alike (selfViewBond r v) (runViewBond (selfModule py) r' v) := by
  obtain ⟨hpassed, hfailed⟩ := Prod.mk.inj h.viewBond
  cases hbuild : buildViewBondIx ⟨"conformance", conformanceAgent, v.minBondAtomic, v.minScore⟩ PROGRAM_ID_DEVNET with
  | error e =>
    have hdata : viewBondData (selfModule py) v = .error (.inr e) := viewBondData_self_error py hbuild
    simp only [selfViewBond, runViewBond, hbuild, hdata, Outcome.error_bind]
    exact .error rfl
  | ok ix =>
    have hdata : viewBondData (selfModule py) v = .ok ix.data := viewBondData_self_ok py hbuild
    simp only [selfViewBond, runViewBond, hbuild, hdata, Outcome.ok_bind]
    by_cases hgot : Bytes.hex ix.data = v.expectedDataHex
    · rw [if_pos hgot, if_pos hgot]
      exact .ok { h with viewBond := by rw [hpassed, hfailed] }
    · rw [if_neg hgot, if_neg hgot]
      exact .ok { h with viewBond := by rw [hpassed, hfailed] }

/-- The three loops of `run_self_test`, one after another. -/
theorem runSelfTest_eq (stateVectors : List StateVector) (illegalVectors : List IllegalVector)
    (viewBondVectors : List ViewBondVector) :
    runSelfTest py stateVectors illegalVectors viewBondVectors = (do
      let r₁ ← stateVectors.foldlM (fun r v => .ok (selfState py r v)) {}
      let r₂ ← illegalVectors.foldlM (fun r v => .ok (selfIllegal r v)) r₁
      viewBondVectors.foldlM selfViewBond r₂) := by
  unfold runSelfTest
  rw [Tally.foldlM_pure_rounds, Outcome.ok_bind, Tally.foldlM_pure_rounds, Outcome.ok_bind]
  simp [List.forIn_pure_yield_eq_foldl, List.forIn_yield_eq_foldlM]

/-- The self test and the loops of the transport, side by side. -/
theorem alike_vectors (stateVectors : List StateVector) (illegalVectors : List IllegalVector)
    (viewBondVectors : List ViewBondVector) :
    Outcome.Agree (fun e x => x = .inr e) Alike (runSelfTest py stateVectors illegalVectors viewBondVectors)
      (runVectors (selfModule py) stateVectors illegalVectors viewBondVectors) := by
  have hstate : ∀ (r r' : ConformanceReport) (v : StateVector), Alike r r' →
      Outcome.Agree (fun e x => x = .inr e) Alike (.ok (selfState py r v)) (runState (selfModule py) r' v) := by
    intro r r' v h
    obtain ⟨next, hnext, halike⟩ := alike_state py v h
    rw [hnext]
    exact .ok halike
  have hillegal : ∀ (r r' : ConformanceReport) (v : IllegalVector), Alike r r' →
      Outcome.Agree (fun e x => x = .inr e) Alike (.ok (selfIllegal r v)) (runIllegal (selfModule py) r' v) := by
    intro r r' v h
    obtain ⟨next, hnext, halike⟩ := alike_illegal py v h
    rw [hnext]
    exact .ok halike
  rw [runSelfTest_eq, runVectors_eq]
  refine (Outcome.Agree.foldlM hstate stateVectors ⟨rfl, .nil, rfl, rfl⟩).bind fun r₁ r₁' h₁ => ?_
  refine (Outcome.Agree.foldlM hillegal illegalVectors h₁).bind fun r₂ r₂' h₂ => ?_
  exact Outcome.Agree.foldlM (fun r r' v h => alike_viewBond py v h) viewBondVectors h₂

/-- The reference exposes the names. -/
theorem exports_self : ∀ name ∈ needed, (selfModule py).hasattr name = true := fun _ hname => decide_eq_true hname

/-- The self test and the python transport on the reference do the same, whatever the vectors: both return reports that say the
same, or both end with what the builder raised. -/
theorem self_test_is_transport (py : Py.Interpreter) (stateVectors : List StateVector) (illegalVectors : List IllegalVector)
    (viewBondVectors : List ViewBondVector) :
    Outcome.Agree (fun e x => x = .raised (.inr e)) Alike (runSelfTest py stateVectors illegalVectors viewBondVectors)
      (runPythonTransport (selfModule py) stateVectors illegalVectors viewBondVectors) := by
  rw [runPythonTransport_eq (exports_self py)]
  exact (alike_vectors py stateVectors illegalVectors viewBondVectors).mapError fun e x hx => congrArg Escaped.raised hx

/-! ## The judgement of a corpus -/

/-- The reference guards everything but the numbers that do not fit the instruction. -/
theorem guarded_self_iff {stateVectors : List StateVector} {viewBondVectors : List ViewBondVector} :
    Guarded (selfModule py) stateVectors viewBondVectors ↔ ∀ v ∈ viewBondVectors, Fits v := by
  have htext : ∀ v ∈ stateVectors, ∀ e, RaisesOn (selfModule py) v e → ∃ text, (selfModule py).text e = .ok text :=
    fun v _ e _ => ⟨_, rfl⟩
  simp only [Guarded, encodes_self_iff, and_iff_right htext]

/-- The self test returns a report exactly when every vector fits the instruction. -/
theorem runSelfTest_ends_iff (stateVectors : List StateVector) (illegalVectors : List IllegalVector)
    (viewBondVectors : List ViewBondVector) :
    (∃ r, runSelfTest py stateVectors illegalVectors viewBondVectors = .ok r) ↔ ∀ v ∈ viewBondVectors, Fits v := by
  rw [(alike_vectors py stateVectors illegalVectors viewBondVectors).isOk_iff, runVectors_ends_iff, guarded_self_iff]

/-- Every vector says what the lifecycle and the encoding say. -/
structure Judged (stateVectors : List StateVector) (illegalVectors : List IllegalVector) (viewBondVectors : List ViewBondVector) :
    Prop where
  state : ∀ v ∈ stateVectors, Prescribed v
  illegal : ∀ v ∈ illegalVectors, ¬Begins v.log
  viewBond : ∀ v ∈ viewBondVectors, v.expectedDataHex = Bytes.hex (viewBondBytes v)

/-- The report of the self test is ok exactly when the vectors are judged so. -/
theorem runSelfTest_ok_iff {stateVectors : List StateVector} {illegalVectors : List IllegalVector}
    {viewBondVectors : List ViewBondVector} {r : ConformanceReport}
    (hr : runSelfTest py stateVectors illegalVectors viewBondVectors = .ok r) :
    r.ok = true ↔ Judged stateVectors illegalVectors viewBondVectors := by
  obtain ⟨r', hr', halike⟩ := (alike_vectors py stateVectors illegalVectors viewBondVectors).of_ok hr
  have hfits := (runSelfTest_ends_iff py stateVectors illegalVectors viewBondVectors).mp ⟨r, hr⟩
  have hviewBond : (∀ v ∈ viewBondVectors, answersViewBond (selfModule py) v = true) ↔
      ∀ v ∈ viewBondVectors, v.expectedDataHex = Bytes.hex (viewBondBytes v) :=
    forall₂_congr fun v hv => answersViewBond_self py (hfits v hv)
  rw [← halike.ok, (accounts_of_runVectors hr').ok, hviewBond]
  simp only [answersState_self, answersIllegal_self]
  exact ⟨fun h => ⟨h.1, h.2.1, h.2.2⟩, fun h => ⟨h.state, h.illegal, h.viewBond⟩⟩

/-- The self test returns a report exactly when the numbers of every `view_bond` vector fit the instruction; and the report it
returns is ok exactly when every state vector says what the lifecycle says of its log, no illegal log begins a lifecycle, and the
expected bytes are those of the instruction. -/
theorem self_test_judges_corpus (py : Py.Interpreter) (stateVectors : List StateVector) (illegalVectors : List IllegalVector)
    (viewBondVectors : List ViewBondVector) :
    ((∃ r, runSelfTest py stateVectors illegalVectors viewBondVectors = .ok r) ↔ ∀ v ∈ viewBondVectors, Fits v) ∧
      ∀ r, runSelfTest py stateVectors illegalVectors viewBondVectors = .ok r →
        (r.ok = true ↔ Judged stateVectors illegalVectors viewBondVectors) :=
  ⟨runSelfTest_ends_iff py stateVectors illegalVectors viewBondVectors, fun _ hr => runSelfTest_ok_iff py hr⟩

/-! ## The corpus of the profile -/

/-- The reference answers every vector of the corpus. -/
theorem corpus_answered :
    (∀ v ∈ STATE_VECTORS, answersState (selfModule default) v = true) ∧
      (∀ v ∈ ILLEGAL_VECTORS, answersIllegal (selfModule default) v = true) ∧
      ∀ v ∈ VIEW_BOND_VECTORS, answersViewBond (selfModule default) v = true := by
  decide +kernel

end ArsSolana.Python
