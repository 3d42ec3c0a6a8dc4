import ArsSolana.Lemmas.Loops

/-!
# When the conformance harness accounts for every vector

The first two loops catch what the target raises, the third does not; and the text of an exception, which the first loop writes
down, is the target's own code. Where neither raises, every vector is counted once, by the answer the target gave on it.
-/

namespace ArsSolana.Python

open Tally

section Answers

variable (mod : TargetModule)

/-- The comparison was made and holds. -/
def holds {χ : Type} : Except χ Bool → Bool
  | .ok b => b
  | .error _ => false

/-- The target replayed the log to the expected state and released amount. -/
def answersState (v : StateVector) : Bool :=
  match mod.replay v.log with
  | .ok job => holds (mod.stateIs job v.expectedState) && holds (mod.releasedIs job v.expectedReleasedAtomic)
  | .error _ => false

/-- The target raised its transition error. -/
def answersIllegal (v : IllegalVector) : Bool :=
  match mod.replay v.log with
  | .ok _ => false
  | .error e => mod.isTransitionError e

/-- The target encoded the expected bytes. -/
def answersViewBond (v : ViewBondVector) : Bool :=
  match viewBondData mod v with
  | .ok data => Bytes.hex data = v.expectedDataHex
  | .error _ => false

/-- A line of the report starts with the name of its vector. -/
def LineOf {α : Type} (name : α → String) (v : α) (line : String) : Prop := ∃ rest : String, line = s!"{name v}: {rest}"

/-- The report accounts for every vector of the three sets: each is counted once, as passed exactly when the target gave the
expected answer on it, and the report is ok exactly when all passed. -/
structure Accounts (stateVectors : List StateVector) (illegalVectors : List IllegalVector) (viewBondVectors : List ViewBondVector)
    (r : ConformanceReport) : Prop extends
    Tallied (answersState mod) (LineOf StateVector.name) (answersIllegal mod) (LineOf IllegalVector.name) (answersViewBond mod)
      (LineOf ViewBondVector.name) stateVectors illegalVectors viewBondVectors r where
  ok : r.ok = true ↔ (∀ v ∈ stateVectors, answersState mod v = true) ∧ (∀ v ∈ illegalVectors, answersIllegal mod v = true) ∧
    ∀ v ∈ viewBondVectors, answersViewBond mod v = true

/-- The job has another state, or the expected state and another released amount. -/
def Mismatch (v : StateVector) (job : mod.Job) : Prop :=
  mod.stateIs job v.expectedState = .ok false ∨
    mod.stateIs job v.expectedState = .ok true ∧ mod.releasedIs job v.expectedReleasedAtomic = .ok false

/-- What the target raises on a state vector: in `replay`, where the job is compared, or where a wrong job is described. -/
inductive RaisesOn (v : StateVector) : mod.Exc → Prop
  | replay {e} : mod.replay v.log = .error e → RaisesOn v e
  | state {job e} : mod.replay v.log = .ok job → mod.stateIs job v.expectedState = .error e → RaisesOn v e
  | released {job e} : mod.replay v.log = .ok job → mod.stateIs job v.expectedState = .ok true →
      mod.releasedIs job v.expectedReleasedAtomic = .error e → RaisesOn v e
  | stateText {job e} : mod.replay v.log = .ok job → Mismatch mod v job → mod.stateText job = .error e → RaisesOn v e
  | releasedText {job text e} : mod.replay v.log = .ok job → Mismatch mod v job → mod.stateText job = .ok text →
      mod.releasedText job = .error e → RaisesOn v e

/-- The target encodes the instruction of the vector: neither the params nor the builder nor the data raise. -/
def Encodes (v : ViewBondVector) : Prop :=
  ∃ params ix data, mod.lockCollateralParams "conformance" conformanceAgent v.minBondAtomic v.minScore = .ok params ∧
    mod.buildViewBondIx params = .ok ix ∧ mod.dataBytes ix = .ok data

/-- Nothing the target raises reaches a place that no clause catches. -/
def Guarded (stateVectors : List StateVector) (viewBondVectors : List ViewBondVector) : Prop :=
  (∀ v ∈ stateVectors, ∀ e, RaisesOn mod v e → ∃ text, mod.text e = .ok text) ∧ ∀ v ∈ viewBondVectors, Encodes mod v

end Answers

variable {mod : TargetModule}

/-! ## The first loop -/

/-- A wrong job is described, as far as the target can be asked to. -/
theorem tryState_of_mismatch {v : StateVector} {job : mod.Job} (hjob : mod.replay v.log = .ok job) (h : Mismatch mod v job) :
    tryState mod v = (do
      let state ← mod.stateText job
      let released ← mod.releasedText job
      .ok (some s!"{v.name}: got state={state}, released={released}")) := by
  unfold tryState
  rcases h with hstate | ⟨hstate, hreleased⟩
  · simp only [hjob, hstate, Outcome.ok_bind, Bool.false_eq_true, if_false]
  · simp only [hjob, hstate, hreleased, Outcome.ok_bind, if_true, Bool.false_eq_true, if_false]

/-- What the target raises ends the `try`. -/
theorem tryState_of_raisesOn {v : StateVector} {e : mod.Exc} (h : RaisesOn mod v e) : tryState mod v = .error e := by
  cases h with
  | replay hjob => simp only [tryState, hjob, Outcome.error_bind]
  | state hjob hstate => simp only [tryState, hjob, hstate, Outcome.ok_bind, Outcome.error_bind]
  | released hjob hstate hreleased => simp only [tryState, hjob, hstate, hreleased, Outcome.ok_bind, if_true, Outcome.error_bind]
  | stateText hjob hmismatch htext => rw [tryState_of_mismatch hjob hmismatch, htext, Outcome.error_bind]
  | releasedText hjob hmismatch htext hreleased =>
    rw [tryState_of_mismatch hjob hmismatch, htext, Outcome.ok_bind, hreleased, Outcome.error_bind]

/-- The line of a wrong job. -/
theorem lineOf_got (v : StateVector) (state released : String) :
    LineOf StateVector.name v s!"{v.name}: got state={state}, released={released}" :=
  ⟨s!"got state={state}, released={released}", by simp [toString, ← String.toList_inj]⟩

/-- How the `try` of the first loop ends, with what the target answered. -/
inductive Tried (mod : TargetModule) (v : StateVector) : Except mod.Exc (Option String) → Prop
  | raised {e} : RaisesOn mod v e → answersState mod v = false → Tried mod v (.error e)
  | passed : answersState mod v = true → Tried mod v (.ok none)
  | failed {line} : answersState mod v = false → LineOf StateVector.name v line → Tried mod v (.ok (some line))

/-- A replayed log is answered by both comparisons. -/
theorem answersState_eq {v : StateVector} {job : mod.Job} (hjob : mod.replay v.log = .ok job) :
    answersState mod v = (holds (mod.stateIs job v.expectedState) && holds (mod.releasedIs job v.expectedReleasedAtomic)) := by
  simp only [answersState, hjob]

/-- A wrong job is not the expected answer. -/
theorem answersState_of_mismatch {v : StateVector} {job : mod.Job} (hjob : mod.replay v.log = .ok job)
    (h : Mismatch mod v job) : answersState mod v = false := by
  rw [answersState_eq hjob]
  rcases h with hstate | ⟨hstate, hreleased⟩
  · simp [hstate, holds]
  · simp [hstate, hreleased, holds]

/-- A wrong job fails its vector, or the target raises where it is described. -/
theorem tried_of_mismatch {v : StateVector} {job : mod.Job} (hjob : mod.replay v.log = .ok job) (h : Mismatch mod v job) :
    Tried mod v (tryState mod v) := by
  have hanswers := answersState_of_mismatch hjob h
  rw [tryState_of_mismatch hjob h]
  cases hstate : mod.stateText job with
  | error e => exact .raised (.stateText hjob h hstate) hanswers
  | ok state =>
    rw [Outcome.ok_bind]
    cases hreleased : mod.releasedText job with
    | error e => exact .raised (.releasedText hjob h hstate hreleased) hanswers
    | ok released => exact .failed hanswers (lineOf_got v state released)

/-- The `try` ends with what the target answered. -/
theorem tried (mod : TargetModule) (v : StateVector) : Tried mod v (tryState mod v) := by
  cases hjob : mod.replay v.log with
  | error e =>
    have hraises : RaisesOn mod v e := .replay hjob
    rw [tryState_of_raisesOn hraises]
    exact .raised hraises (by simp only [answersState, hjob])
  | ok job =>
    cases hstate : mod.stateIs job v.expectedState with
    | error e =>
      have hraises : RaisesOn mod v e := .state hjob hstate
      rw [tryState_of_raisesOn hraises]
      exact .raised hraises (by simp [answersState_eq hjob, hstate, holds])
    | ok stateMatches =>
      cases stateMatches with
      | false => exact tried_of_mismatch hjob (Or.inl hstate)
      | true =>
        cases hreleased : mod.releasedIs job v.expectedReleasedAtomic with
        | error e =>
          have hraises : RaisesOn mod v e := .released hjob hstate hreleased
          rw [tryState_of_raisesOn hraises]
          exact .raised hraises (by simp [answersState_eq hjob, hreleased, holds])
        | ok releasedMatches =>
          cases releasedMatches with
          | false => exact tried_of_mismatch hjob (Or.inr ⟨hstate, hreleased⟩)
          | true =>
            have hpass : tryState mod v = .ok none := by
              simp only [tryState, hjob, hstate, hreleased, Outcome.ok_bind, if_true]
            rw [hpass]
            exact .passed (by simp [answersState_eq hjob, hstate, hreleased, holds])

/-- A round of the first loop ends exactly when what the target raises has a text. -/
theorem runState_ends_iff (r : ConformanceReport) (v : StateVector) :
    (∃ r', runState mod r v = .ok r') ↔ ∀ e, RaisesOn mod v e → ∃ text, mod.text e = .ok text := by
  have hraises : ∀ e, RaisesOn mod v e → tryState mod v = .error e := fun e => tryState_of_raisesOn
  have htried := tried mod v
  unfold runState
  generalize tryState mod v = outcome at hraises htried
  cases htried with
  | passed =>
    refine iff_of_true ⟨_, rfl⟩ ?_
    intro e he
    cases hraises e he
  | failed =>
    refine iff_of_true ⟨_, rfl⟩ ?_
    intro e he
    cases hraises e he
  | @raised e he =>
    constructor
    · intro h e' he'
      cases hraises e' he'
      cases htext : mod.text e with
      | ok text => exact ⟨text, rfl⟩
      | error x =>
        obtain ⟨r', hr'⟩ := h
        simp only [htext, Outcome.error_bind] at hr'
        cases hr'
    · intro h
      obtain ⟨text, htext⟩ := h e he
      simp only [htext, Outcome.ok_bind]
      exact ⟨_, rfl⟩

/-- A round of the first loop counts its vector. -/
theorem round_state {r r' : ConformanceReport} {v : StateVector} (h : runState mod r v = .ok r') :
    Round (answersState mod) (LineOf StateVector.name) v r.stateCount r'.stateCount ∧
      (r'.illegalCount, r'.viewBondCount) = (r.illegalCount, r.viewBondCount) := by
  have htried := tried mod v
  unfold runState at h
  generalize tryState mod v = outcome at h htried
  cases htried with
  | passed hanswers =>
    cases h
    exact ⟨.pass hanswers, rfl⟩
  | failed hanswers hline =>
    cases h
    exact ⟨.fail hanswers hline, rfl⟩
  | @raised e he hanswers =>
    simp only at h
    cases htext : mod.text e with
    | error x =>
      rw [htext, Outcome.error_bind] at h
      cases h
    | ok text =>
      rw [htext, Outcome.ok_bind] at h
      cases h
      exact ⟨.fail hanswers ⟨s!"raised {mod.typeName e}: {text}", by simp [toString, ← String.toList_inj]⟩, rfl⟩

/-! ## The other loops -/

/-- A round of the second loop always ends. -/
theorem runIllegal_ends (r : ConformanceReport) (v : IllegalVector) : ∃ r', runIllegal mod r v = .ok r' := by
  unfold runIllegal
  split
  · exact ⟨_, rfl⟩
  · split
    · exact ⟨_, rfl⟩
    · exact ⟨_, rfl⟩

/-- A round of the second loop counts its vector. -/
theorem round_illegal {r r' : ConformanceReport} {v : IllegalVector} (h : runIllegal mod r v = .ok r') :
    Round (answersIllegal mod) (LineOf IllegalVector.name) v r.illegalCount r'.illegalCount ∧
      (r'.stateCount, r'.viewBondCount) = (r.stateCount, r.viewBondCount) := by
  unfold runIllegal at h
  cases hreplay : mod.replay v.log with
  | ok job =>
    simp only [hreplay] at h
    cases h
    have hanswers : answersIllegal mod v = false := by simp only [answersIllegal, hreplay]
    exact ⟨.fail hanswers ⟨"should have raised", by simp [toString, ← String.toList_inj]⟩, rfl⟩
  | error e =>
    have hanswers : answersIllegal mod v = mod.isTransitionError e := by simp only [answersIllegal, hreplay]
    simp only [hreplay] at h
    cases htransition : mod.isTransitionError e with
    | true =>
      simp only [htransition, if_true] at h
      cases h
      exact ⟨.pass (hanswers.trans htransition), rfl⟩
    | false =>
      simp only [htransition, Bool.false_eq_true, if_false] at h
      cases h
      exact ⟨.fail (hanswers.trans htransition)
        ⟨s!"raised wrong type {mod.typeName e}", by simp [toString, ← String.toList_inj]⟩, rfl⟩

/-- The target encodes exactly the vectors it has data for. -/
theorem encodes_iff {v : ViewBondVector} : Encodes mod v ↔ ∃ data, viewBondData mod v = .ok data := by
  unfold viewBondData
  rw [Outcome.bind_isOk_iff]
  refine exists_congr fun params => ?_
  rw [Outcome.bind_isOk_iff]
  constructor
  · rintro ⟨ix, data, hparams, hix, hdata⟩
    exact ⟨hparams, ix, hix, data, hdata⟩
  · rintro ⟨hparams, ix, hix, data, hdata⟩
    exact ⟨ix, data, hparams, hix, hdata⟩

/-- A round of the third loop ends exactly when the target encodes its instruction. -/
theorem runViewBond_ends_iff (r : ConformanceReport) (v : ViewBondVector) :
    (∃ r', runViewBond mod r v = .ok r') ↔ Encodes mod v := by
  rw [encodes_iff]
  unfold runViewBond
  cases hdata : viewBondData mod v with
  | error e =>
    constructor
    · rintro ⟨r', ⟨⟩⟩
    · rintro ⟨data, ⟨⟩⟩
  | ok data =>
    refine iff_of_true ?_ ⟨data, rfl⟩
    simp only [Outcome.ok_bind]
    split
    · exact ⟨_, rfl⟩
    · exact ⟨_, rfl⟩

/-- A round of the third loop counts its vector. -/
theorem round_viewBond {r r' : ConformanceReport} {v : ViewBondVector} (h : runViewBond mod r v = .ok r') :
    Round (answersViewBond mod) (LineOf ViewBondVector.name) v r.viewBondCount r'.viewBondCount ∧
      (r'.stateCount, r'.illegalCount) = (r.stateCount, r.illegalCount) := by
  unfold runViewBond at h
  cases hdata : viewBondData mod v with
  | error e =>
    rw [hdata] at h
    cases h
  | ok data =>
    have hanswers : answersViewBond mod v = decide (Bytes.hex data = v.expectedDataHex) := by
      simp only [answersViewBond, hdata]
    simp only [hdata, Outcome.ok_bind] at h
    by_cases hgot : Bytes.hex data = v.expectedDataHex
    · rw [if_pos hgot] at h
      cases h
      exact ⟨.pass (hanswers.trans (decide_eq_true hgot)), rfl⟩
    · rw [if_neg hgot] at h
      cases h
      exact ⟨.fail (hanswers.trans (decide_eq_false hgot))
        ⟨s!"expected {v.expectedDataHex}, got {Bytes.hex data}", by simp [toString, ← String.toList_inj]⟩, rfl⟩

/-! ## The report -/

/-- The loops as folds. -/
theorem runVectors_eq (mod : TargetModule) (stateVectors : List StateVector) (illegalVectors : List IllegalVector)
    (viewBondVectors : List ViewBondVector) :
    runVectors mod stateVectors illegalVectors viewBondVectors = (do
      let r₁ ← stateVectors.foldlM (runState mod) {}
      let r₂ ← illegalVectors.foldlM (runIllegal mod) r₁
      viewBondVectors.foldlM (runViewBond mod) r₂) := by
  unfold runVectors
  simp only [bind_pure_comp, List.forIn_yield_eq_foldlM, id_map', bind_pure]

/-- A report that was returned accounts for every vector. -/
theorem accounts_of_runVectors {stateVectors : List StateVector} {illegalVectors : List IllegalVector}
    {viewBondVectors : List ViewBondVector} {r : ConformanceReport}
    (h : runVectors mod stateVectors illegalVectors viewBondVectors = .ok r) :
    Accounts mod stateVectors illegalVectors viewBondVectors r := by
  rw [runVectors_eq] at h
  obtain ⟨r₁, hstate, hrest⟩ := Outcome.bind_ok h
  obtain ⟨r₂, hillegal, hviewBond⟩ := Outcome.bind_ok hrest
  have htallied := tallied_of_loops (fun _ _ _ hr => round_state hr) (fun _ _ _ hr => round_illegal hr)
    (fun _ _ _ hr => round_viewBond hr) hstate hillegal hviewBond
  exact { htallied with ok := htallied.ok_iff }

/-- The three loops end exactly when everything the target raises is caught. -/
theorem runVectors_ends_iff (mod : TargetModule) (stateVectors : List StateVector) (illegalVectors : List IllegalVector)
    (viewBondVectors : List ViewBondVector) :
    (∃ r, runVectors mod stateVectors illegalVectors viewBondVectors = .ok r) ↔ Guarded mod stateVectors viewBondVectors := by
  have hillegal : ∀ r, ∃ r', illegalVectors.foldlM (runIllegal mod) r = .ok r' := by
    intro r
    have hends : ∀ (r : ConformanceReport) (v : IllegalVector), (∃ r', runIllegal mod r v = .ok r') ↔ True :=
      fun r v => iff_true_intro (runIllegal_ends r v)
    exact (foldlM_ok_iff hends).mpr fun _ _ => trivial
  rw [runVectors_eq, Outcome.bind_isOk_iff]
  constructor
  · rintro ⟨r₁, hstate, hrest⟩
    obtain ⟨r₂, -, hviewBond⟩ := Outcome.bind_isOk_iff.mp hrest
    exact ⟨(foldlM_ok_iff runState_ends_iff).mp ⟨r₁, hstate⟩, (foldlM_ok_iff runViewBond_ends_iff).mp hviewBond⟩
  · rintro ⟨hstates, hviewBonds⟩
    obtain ⟨r₁, hstate⟩ := (foldlM_ok_iff runState_ends_iff).mpr hstates
    obtain ⟨r₂, hr₂⟩ := hillegal r₁
    exact ⟨r₁, hstate, Outcome.bind_isOk_iff.mpr ⟨r₂, hr₂, (foldlM_ok_iff runViewBond_ends_iff).mpr hviewBonds⟩⟩

/-- A target that exposes the names is run. -/
theorem runPythonTransport_eq (hexports : ∀ name ∈ needed, mod.hasattr name = true) (stateVectors : List StateVector)
    (illegalVectors : List IllegalVector) (viewBondVectors : List ViewBondVector) :
    runPythonTransport mod stateVectors illegalVectors viewBondVectors =
      (runVectors mod stateVectors illegalVectors viewBondVectors).mapError .raised := by
  have hmissing : needed.filter (fun n => !mod.hasattr n) = [] := by
    rw [List.filter_eq_nil_iff]
    intro name hname
    simp [hexports name hname]
  unfold runPythonTransport
  simp only [hmissing, ne_eq, not_true_eq_false, if_false]

/-- The harness returns a report that accounts for every vector exactly when everything the target raises is caught. -/
theorem transport_accounts_iff (mod : TargetModule) (stateVectors : List StateVector) (illegalVectors : List IllegalVector)
    (viewBondVectors : List ViewBondVector) (hexports : ∀ name ∈ needed, mod.hasattr name = true) :
    (∃ r, runPythonTransport mod stateVectors illegalVectors viewBondVectors = .ok r ∧
      Accounts mod stateVectors illegalVectors viewBondVectors r) ↔ Guarded mod stateVectors viewBondVectors := by
  rw [runPythonTransport_eq hexports, ← runVectors_ends_iff mod stateVectors illegalVectors]
  cases hrun : runVectors mod stateVectors illegalVectors viewBondVectors with
  | error e =>
    constructor
    · rintro ⟨r, ⟨⟩, -⟩
    · rintro ⟨r, ⟨⟩⟩
  | ok r => exact iff_of_true ⟨r, rfl, accounts_of_runVectors hrun⟩ ⟨r, rfl⟩

/-! ## The reference, and a fork that is not finished -/

namespace TransportExample

/-- A fork whose builder raises. -/
def unfinished : TargetModule :=
  { selfModule default with buildViewBondIx := fun _ => .error (.inr ⟨.other "NotImplementedError", "view_bond"⟩) }

def opened : StateVector where
  name := "awaiting underwriting after open"
  log := [.jobOpened ⟨"j1", 1, "A", "D", 10 ^ 9⟩]
  expectedState := "AWAIT_UNDERWRITING"

def ghost : IllegalVector := ⟨"event for unknown job", [.underwritingStarted ⟨"ghost", 1⟩]⟩

def zeros : ViewBondVector := ⟨"zeros", 0, 0, "3edf1f507bd084f000000000000000000000"⟩

/-- The reference is accounted for. -/
theorem reference_accounted :
    ∃ r, runPythonTransport (selfModule default) [opened] [ghost] [zeros] = .ok r ∧ Accounts (selfModule default) [opened] [ghost] [zeros] r := by
  refine (transport_accounts_iff (selfModule default) [opened] [ghost] [zeros] (by decide)).mpr ⟨?_, ?_⟩
  · intro v _ e _
    exact ⟨_, rfl⟩
  · intro v hv
    rw [List.mem_singleton.mp hv]
    exact ⟨_, _, _, rfl, rfl, rfl⟩

/-- The fork is not: what its builder raises ends the harness. -/
theorem unfinished_escapes :
    runPythonTransport unfinished [opened] [ghost] [zeros] =
        .error (.raised (.inr ⟨.other "NotImplementedError", "view_bond"⟩)) ∧
      ¬∃ r, runPythonTransport unfinished [opened] [ghost] [zeros] = .ok r ∧
        Accounts unfinished [opened] [ghost] [zeros] r := by
  have hescapes : runPythonTransport unfinished [opened] [ghost] [zeros] =
      .error (.raised (.inr ⟨.other "NotImplementedError", "view_bond"⟩)) := by
    rfl
  refine ⟨hescapes, ?_⟩
  rintro ⟨r, hr, -⟩
  rw [hescapes] at hr
  cases hr

end TransportExample

end ArsSolana.Python
