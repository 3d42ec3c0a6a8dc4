import ArsSolana.Theorems.PaymentHeader

/-!
# The verdict of the payment gate

Nine stages, each of which may fail with a code of its own: the header is there, it decodes, it carries a transaction, that names
a payer, whose profile is looked up, is there, is not frozen, and meets both thresholds. The verdict is the code of the first
stage that fails, and a pass when none does; it depends on the policy and on the lookup as far as the stages that were reached.
-/

namespace ArsSolana.Python

section Stages

variable (py : Py.Interpreter) (solders : Solders) (header : Option Py.Str) (policy : GatePolicy) (lookupProfile : ProfileLookup)

/-- The lookup finds this profile, and it is not frozen. -/
def Standing (payer : String) (profile : Profile) : Prop :=
  lookupProfile payer = .ok (.dict profile) ∧ (Py.get profile "frozen").truthy = false

/-- `int(profile.get("score") or 0)`. -/
def scoreOf (profile : Profile) : Except Py.Exception Int := py.toInt ((Py.get profile "score").orElse (.int 0))

/-- `int(profile.get("bond_atomic") or 0)`. -/
def bondOf (profile : Profile) : Except Py.Exception Int := py.toInt ((Py.get profile "bond_atomic").orElse (.int 0))

/-- The score of the profile meets its threshold. -/
def MeetsScore (profile : Profile) : Prop := ∃ score, scoreOf py profile = .ok score ∧ policy.minScore ≤ score

/-- The bond of the profile meets its threshold. -/
def MeetsBond (profile : Profile) : Prop := ∃ bond, bondOf py profile = .ok bond ∧ policy.minBondAtomic ≤ bond

/-- No stage fails, and this payer and profile were found on the way. -/
def Passes (payer : String) (profile : Profile) : Prop :=
  PaidBy py solders header payer ∧ Standing lookupProfile payer profile ∧ MeetsScore py policy profile ∧
    MeetsBond py policy profile

/-- The code of the first stage that fails. -/
inductive FirstFailure : String → Prop
  | refused {code : UnusableCode} : Refuses py solders header code → FirstFailure code.text
  | lookup {payer : String} {e : LookupException} : PaidBy py solders header payer → lookupProfile payer = .error e →
      FirstFailure "LOOKUP_FAILED"
  | registration {payer : String} : PaidBy py solders header payer → lookupProfile payer = .ok .none →
      FirstFailure "NOT_BONDED"
  | frozen {payer : String} {profile : Profile} : PaidBy py solders header payer → lookupProfile payer = .ok (.dict profile) →
      (Py.get profile "frozen").truthy = true → FirstFailure "FROZEN"
  | score {payer : String} {profile : Profile} {score : Int} : PaidBy py solders header payer →
      Standing lookupProfile payer profile → scoreOf py profile = .ok score → score < policy.minScore →
      FirstFailure "SCORE_BELOW_MIN"
  | bond {payer : String} {profile : Profile} {bond : Int} : PaidBy py solders header payer →
      Standing lookupProfile payer profile → MeetsScore py policy profile → bondOf py profile = .ok bond →
      bond < policy.minBondAtomic → FirstFailure "BOND_BELOW_MIN"

end Stages

/-- The code of a result, none for a pass. -/
def GateResult.code : GateResult → Option String
  | pass _ _ => none
  | fail code _ _ => some code.text
  | unusable code _ => some code.text

/-- The stage that decided comes before the thresholds. -/
def GateResult.BeforePolicy : GateResult → Prop
  | pass _ _ => False
  | fail code _ _ => code = .lookupFailed ∨ code = .notBonded ∨ code = .frozen
  | unusable _ _ => True

variable {py : Py.Interpreter} {solders : Solders} {header : Option Py.Str} {policy policy' : GatePolicy}
  {lookupProfile lookupProfile' : ProfileLookup} {payer : String}

/-! ## The second half -/

/-- The lookup counts for the payer only. -/
theorem judge_congr (h : lookupProfile payer = lookupProfile' payer) (policy : GatePolicy) :
    judge py policy lookupProfile payer = judge py policy lookupProfile' payer := by
  unfold judge
  rw [h]

/-- A frozen profile fails whatever its numbers. -/
theorem judge_of_frozen {profile : Profile} (hlookup : lookupProfile payer = .ok (.dict profile))
    (hfrozen : (Py.get profile "frozen").truthy = true) (policy : GatePolicy) :
    judge py policy lookupProfile payer = .ok (.fail .frozen payer "agent is frozen") := by
  rw [judge, hlookup]
  simp only [judgeProfile, hfrozen, if_true]

/-- The profile of the payer is there and not frozen. -/
theorem judge_of_standing {profile : Profile} (h : Standing lookupProfile payer profile) (policy : GatePolicy) :
    judge py policy lookupProfile payer = (do
      let score ← scoreOf py profile
      if score < policy.minScore then
        let scoreText ← py.strOfInt score
        let minText ← py.strOfInt policy.minScore
        .ok (.fail .scoreBelowMin payer s!"agent score {scoreText} < required {minText}")
      else
        let bondAtomic ← bondOf py profile
        if bondAtomic < policy.minBondAtomic then
          let bondText ← py.strOfInt bondAtomic
          let minText ← py.strOfInt policy.minBondAtomic
          .ok (.fail .bondBelowMin payer s!"agent bond {bondText} < required {minText}")
        else .ok (.pass payer profile)) := by
  obtain ⟨hlookup, hfrozen⟩ := h
  rw [judge, hlookup]
  simp only [judgeProfile, hfrozen, Bool.false_eq_true, if_false]
  rfl

/-- A report of two numbers that is written is the report of the payer. -/
theorem code_of_report {value minimum : Int} {code : FailCode} {text : String → String → String} {r : GateResult}
    (h : (do
      let valueText ← py.strOfInt value
      let minText ← py.strOfInt minimum
      Except.ok (.fail code payer (text valueText minText)) : Except Py.Exception GateResult) = .ok r) :
    ∃ message, r = .fail code payer message := by
  obtain ⟨valueText, _, hrest⟩ := Outcome.bind_ok h
  obtain ⟨minText, _, hr⟩ := Outcome.bind_ok hrest
  cases hr
  exact ⟨_, rfl⟩

/-- A score below its threshold fails as that. -/
theorem judge_of_low_score {profile : Profile} {score : Int} {r : GateResult} (h : Standing lookupProfile payer profile)
    (hscore : scoreOf py profile = .ok score) (hlt : score < policy.minScore)
    (hr : judge py policy lookupProfile payer = .ok r) : ∃ message, r = .fail .scoreBelowMin payer message := by
  rw [judge_of_standing h, hscore] at hr
  simp only [Outcome.ok_bind, hlt, if_true] at hr
  exact code_of_report hr

/-- A bond below its threshold fails as that, after a score that meets its own. -/
theorem judge_of_low_bond {profile : Profile} {bond : Int} {r : GateResult} (h : Standing lookupProfile payer profile)
    (hscore : MeetsScore py policy profile) (hbond : bondOf py profile = .ok bond) (hlt : bond < policy.minBondAtomic)
    (hr : judge py policy lookupProfile payer = .ok r) : ∃ message, r = .fail .bondBelowMin payer message := by
  obtain ⟨score, hscore, hle⟩ := hscore
  rw [judge_of_standing h, hscore] at hr
  simp only [Outcome.ok_bind, Int.not_lt.mpr hle, if_false, hbond, hlt, if_true] at hr
  exact code_of_report hr

/-- A profile that meets both thresholds passes. -/
theorem judge_of_passes {profile : Profile} (h : Standing lookupProfile payer profile) (hscore : MeetsScore py policy profile)
    (hbond : MeetsBond py policy profile) : judge py policy lookupProfile payer = .ok (.pass payer profile) := by
  obtain ⟨score, hscore, hle⟩ := hscore
  obtain ⟨bond, hbond, hle'⟩ := hbond
  rw [judge_of_standing h, hscore]
  simp only [Outcome.ok_bind, Int.not_lt.mpr hle, if_false, hbond, Int.not_lt.mpr hle']

/-- How the second half ends, by the stage that decided. -/
inductive Judgement (py : Py.Interpreter) (policy : GatePolicy) (lookupProfile : ProfileLookup) (payer : String) :
    GateResult → Prop
  | lookup {e : LookupException} {message : String} : lookupProfile payer = .error e →
      Judgement py policy lookupProfile payer (.fail .lookupFailed payer message)
  | registration {message : String} : lookupProfile payer = .ok .none →
      Judgement py policy lookupProfile payer (.fail .notBonded payer message)
  | frozen {profile : Profile} {message : String} : lookupProfile payer = .ok (.dict profile) →
      (Py.get profile "frozen").truthy = true → Judgement py policy lookupProfile payer (.fail .frozen payer message)
  | score {profile : Profile} {score : Int} {message : String} : Standing lookupProfile payer profile →
      scoreOf py profile = .ok score → score < policy.minScore →
      Judgement py policy lookupProfile payer (.fail .scoreBelowMin payer message)
  | bond {profile : Profile} {bond : Int} {message : String} : Standing lookupProfile payer profile →
      MeetsScore py policy profile → bondOf py profile = .ok bond → bond < policy.minBondAtomic →
      Judgement py policy lookupProfile payer (.fail .bondBelowMin payer message)
  | pass {profile : Profile} : Standing lookupProfile payer profile → MeetsScore py policy profile →
      MeetsBond py policy profile → Judgement py policy lookupProfile payer (.pass payer profile)

/-- What the second half returns is the judgement of the stage that decided. -/
theorem judgement_of_judge {r : GateResult} (h : judge py policy lookupProfile payer = .ok r) :
    Judgement py policy lookupProfile payer r := by
  cases hlookup : lookupProfile payer with
  | error e =>
    rw [judge, hlookup] at h
    obtain ⟨text, -, hr⟩ := Outcome.bind_ok h
    cases hr
    exact .lookup hlookup
  | ok found =>
    cases found with
    | none =>
      rw [judge, hlookup] at h
      cases h
      exact .registration hlookup
    | dict profile =>
      cases hfrozen : (Py.get profile "frozen").truthy with
      | true =>
        rw [judge_of_frozen hlookup hfrozen] at h
        cases h
        exact .frozen hlookup hfrozen
      | false =>
        have hstanding : Standing lookupProfile payer profile := ⟨hlookup, hfrozen⟩
        have hsteps := h
        rw [judge_of_standing hstanding] at hsteps
        obtain ⟨score, hscore, hrest⟩ := Outcome.bind_ok hsteps
        by_cases hlow : score < policy.minScore
        · obtain ⟨message, rfl⟩ := judge_of_low_score hstanding hscore hlow h
          exact .score hstanding hscore hlow
        · rw [if_neg hlow] at hrest
          obtain ⟨bond, hbond, -⟩ := Outcome.bind_ok hrest
          have hmeets : MeetsScore py policy profile := ⟨score, hscore, Int.not_lt.mp hlow⟩
          by_cases hlow' : bond < policy.minBondAtomic
          · obtain ⟨message, rfl⟩ := judge_of_low_bond hstanding hmeets hbond hlow' h
            exact .bond hstanding hmeets hbond hlow'
          · have hmeets' : MeetsBond py policy profile := ⟨bond, hbond, Int.not_lt.mp hlow'⟩
            rw [judge_of_passes hstanding hmeets hmeets'] at h
            cases h
            exact .pass hstanding hmeets hmeets'
    | _ =>
      rw [judge, hlookup] at h
      cases h

/-! ## The verdict -/

/-- A result of the gate was decided in the first half, by a stage that fails whatever the policy and the lookup, or in the
second half, for the payer of the header. -/
theorem gate_cases {r : GateResult} (h : applyX402Gate py solders header policy lookupProfile = .ok r) :
    (∃ code message, r = .unusable code message ∧ Refuses py solders header code ∧
      findPayer py solders header = .ok (.inl r)) ∨
    ∃ payer, PaidBy py solders header payer ∧ Judgement py policy lookupProfile payer r := by
  obtain ⟨found, hfound, hend⟩ := Outcome.bind_ok h
  rcases findPayer_ok hfound with ⟨payer, rfl, hpaid⟩ | ⟨code, message, rfl, hrefuses⟩
  · exact Or.inr ⟨payer, hpaid, judgement_of_judge hend⟩
  · cases hend
    exact Or.inl ⟨code, message, rfl, hrefuses, hfound⟩

/-- A pass is what no stage stopped. -/
theorem passes_iff {profile : Profile} :
    applyX402Gate py solders header policy lookupProfile = .ok (.pass payer profile) ↔
      Passes py solders header policy lookupProfile payer profile := by
  constructor
  · intro h
    rcases gate_cases h with ⟨_, _, hr, -⟩ | ⟨_, hpaid, hjudgement⟩
    · cases hr
    · cases hjudgement with
      | pass hstanding hscore hbond => exact ⟨hpaid, hstanding, hscore, hbond⟩
  · rintro ⟨hpaid, hstanding, hscore, hbond⟩
    rw [applyX402Gate_of_paidBy hpaid]
    exact judge_of_passes hstanding hscore hbond

/-- The code of a result is the one of the first stage that fails. -/
theorem firstFailure_of_code {r : GateResult} (h : applyX402Gate py solders header policy lookupProfile = .ok r) {code : String}
    (hcode : r.code = some code) : FirstFailure py solders header policy lookupProfile code := by
  rcases gate_cases h with ⟨_, _, rfl, hrefuses, -⟩ | ⟨payer, hpaid, hjudgement⟩
  · cases hcode
    exact .refused hrefuses
  · cases hjudgement with
    | lookup hlookup =>
      cases hcode
      exact .lookup hpaid hlookup
    | registration hlookup =>
      cases hcode
      exact .registration hpaid hlookup
    | frozen hlookup hfrozen =>
      cases hcode
      exact .frozen hpaid hlookup hfrozen
    | score hstanding hscore hlow =>
      cases hcode
      exact .score hpaid hstanding hscore hlow
    | bond hstanding hscore hbond hlow =>
      cases hcode
      exact .bond hpaid hstanding hscore hbond hlow
    | pass => cases hcode

/-- When a stage is the first to fail, its code is the one of the result. -/
theorem code_of_firstFailure {r : GateResult} (h : applyX402Gate py solders header policy lookupProfile = .ok r) {code : String}
    (hfirst : FirstFailure py solders header policy lookupProfile code) : r.code = some code := by
  cases hfirst with
  | refused hrefuses =>
    obtain ⟨found, hfound, hend⟩ := Outcome.bind_ok h
    obtain ⟨message, rfl⟩ := findPayer_of_refuses hrefuses hfound
    cases hend
    rfl
  | lookup hpaid hlookup =>
    rw [applyX402Gate_of_paidBy hpaid, judge, hlookup] at h
    obtain ⟨text, -, hr⟩ := Outcome.bind_ok h
    cases hr
    rfl
  | registration hpaid hlookup =>
    rw [applyX402Gate_of_paidBy hpaid, judge, hlookup] at h
    cases h
    rfl
  | frozen hpaid hlookup hfrozen =>
    rw [applyX402Gate_of_paidBy hpaid, judge_of_frozen hlookup hfrozen] at h
    cases h
    rfl
  | score hpaid hstanding hscore hlow =>
    rw [applyX402Gate_of_paidBy hpaid] at h
    obtain ⟨_, rfl⟩ := judge_of_low_score hstanding hscore hlow h
    rfl
  | bond hpaid hstanding hscore hbond hlow =>
    rw [applyX402Gate_of_paidBy hpaid] at h
    obtain ⟨_, rfl⟩ := judge_of_low_bond hstanding hscore hbond hlow h
    rfl

/-- A score meets every lower threshold. -/
theorem MeetsScore.mono {profile : Profile} (hle : policy'.minScore ≤ policy.minScore) (h : MeetsScore py policy profile) :
    MeetsScore py policy' profile := by
  obtain ⟨score, hscore, hmin⟩ := h
  exact ⟨score, hscore, hle.trans hmin⟩

/-- A bond meets every lower threshold. -/
theorem MeetsBond.mono {profile : Profile} (hle : policy'.minBondAtomic ≤ policy.minBondAtomic)
    (h : MeetsBond py policy profile) : MeetsBond py policy' profile := by
  obtain ⟨bond, hbond, hmin⟩ := h
  exact ⟨bond, hbond, hle.trans hmin⟩

/-- A profile that passes still passes under lower thresholds. -/
theorem Passes.mono {profile : Profile} (hscore : policy'.minScore ≤ policy.minScore)
    (hbond : policy'.minBondAtomic ≤ policy.minBondAtomic) (h : Passes py solders header policy lookupProfile payer profile) :
    Passes py solders header policy' lookupProfile payer profile := by
  obtain ⟨hpaid, hstanding, hmeets, hmeets'⟩ := h
  exact ⟨hpaid, hstanding, hmeets.mono hscore, hmeets'.mono hbond⟩

/-- What was decided before the thresholds is decided alike under any policy. -/
theorem gate_of_beforePolicy {r : GateResult} (h : applyX402Gate py solders header policy lookupProfile = .ok r)
    (hbefore : r.BeforePolicy) : applyX402Gate py solders header policy' lookupProfile = .ok r := by
  rcases gate_cases h with ⟨_, _, -, -, hfound⟩ | ⟨payer, hpaid, hjudgement⟩
  · exact applyX402Gate_of_result hfound policy' lookupProfile
  · rw [applyX402Gate_of_paidBy hpaid] at h ⊢
    cases hjudgement with
    | lookup hlookup =>
      rw [judge, hlookup] at h ⊢
      exact h
    | registration hlookup =>
      rw [judge, hlookup] at h ⊢
      exact h
    | frozen hlookup hfrozen =>
      rw [judge_of_frozen hlookup hfrozen] at h ⊢
      exact h
    | score => simp [GateResult.BeforePolicy] at hbefore
    | bond => simp [GateResult.BeforePolicy] at hbefore
    | pass => exact hbefore.elim

/-- Lookups that agree on the payer of the header lead to the same outcome. -/
theorem gate_congr (hagree : ∀ payer, PaidBy py solders header payer → lookupProfile payer = lookupProfile' payer) :
    applyX402Gate py solders header policy lookupProfile = applyX402Gate py solders header policy lookupProfile' := by
  unfold applyX402Gate
  cases hfound : findPayer py solders header with
  | error e => rfl
  | ok found =>
    rcases findPayer_ok hfound with ⟨payer, rfl, hpaid⟩ | ⟨code, message, rfl, -⟩
    · exact judge_congr (hagree payer hpaid) policy
    · rfl

/-- An unusable payment is unusable whatever the lookup. -/
theorem gate_of_unusable {code : UnusableCode} {message : String}
    (h : applyX402Gate py solders header policy lookupProfile = .ok (.unusable code message)) :
    applyX402Gate py solders header policy lookupProfile' = .ok (.unusable code message) := by
  rcases gate_cases h with ⟨_, _, -, -, hfound⟩ | ⟨_, _, hjudgement⟩
  · exact applyX402Gate_of_result hfound policy lookupProfile'
  · cases hjudgement

/-- The verdict is exact, monotone in the thresholds, and depends on the payer's own profile only. -/
theorem verdict_exact_monotone_own (py : Py.Interpreter) (solders : Solders) (header : Option Py.Str) (policy : GatePolicy)
    (lookupProfile : ProfileLookup) :
    (∀ payer profile, applyX402Gate py solders header policy lookupProfile = .ok (.pass payer profile) ↔
      Passes py solders header policy lookupProfile payer profile) ∧
    (∀ r, applyX402Gate py solders header policy lookupProfile = .ok r →
      ∀ code, r.code = some code ↔ FirstFailure py solders header policy lookupProfile code) ∧
    (∀ policy' payer profile, policy'.minScore ≤ policy.minScore → policy'.minBondAtomic ≤ policy.minBondAtomic →
      applyX402Gate py solders header policy lookupProfile = .ok (.pass payer profile) →
      applyX402Gate py solders header policy' lookupProfile = .ok (.pass payer profile)) ∧
    (∀ policy' r, applyX402Gate py solders header policy lookupProfile = .ok r → r.BeforePolicy →
      applyX402Gate py solders header policy' lookupProfile = .ok r) ∧
    (∀ lookupProfile', (∀ payer, PaidBy py solders header payer → lookupProfile payer = lookupProfile' payer) →
      applyX402Gate py solders header policy lookupProfile = applyX402Gate py solders header policy lookupProfile') ∧
    ∀ lookupProfile' code message, applyX402Gate py solders header policy lookupProfile = .ok (.unusable code message) →
      applyX402Gate py solders header policy lookupProfile' = .ok (.unusable code message) := by
  refine ⟨?pass, ?code, ?monotone, ?before, ?own, ?unusable⟩
  case pass => exact fun payer profile => passes_iff
  case code =>
    intro r h code
    exact ⟨firstFailure_of_code h, code_of_firstFailure h⟩
  case monotone =>
    intro policy' payer profile hscore hbond h
    exact passes_iff.mpr ((passes_iff.mp h).mono hscore hbond)
  case before => exact fun policy' r h hbefore => gate_of_beforePolicy h hbefore
  case own => exact fun lookupProfile' hagree => gate_congr hagree
  case unusable => exact fun lookupProfile' code message h => gate_of_unusable h

namespace PayerExample

open SoldersExample

/-- A profile with a score of 700 and no bond. -/
def scored : Profile := [(Py.Str.ofString "score", .int 700)]

/-- A payer whose score is just the threshold passes, and so it does under a lower one. -/
theorem own_payer_passes : ∃ header,
    applyX402Gate default (reading own) (some header) ⟨0, 700⟩ (fun _ => .ok (.dict scored)) =
      .ok (.pass ((reading own).str (key 1)) scored) ∧
    applyX402Gate default (reading own) (some header) ⟨0, 600⟩ (fun _ => .ok (.dict scored)) =
      .ok (.pass ((reading own).str (key 1)) scored) := by
  obtain ⟨header, hpaid⟩ := own_paidBy
  obtain ⟨hpass, -, hmonotone, -⟩ :=
    verdict_exact_monotone_own default (reading own) (some header) ⟨0, 700⟩ fun _ => .ok (.dict scored)
  have hpasses := (hpass _ scored).mpr ⟨hpaid, ⟨rfl, rfl⟩, ⟨700, rfl, by decide⟩, ⟨0, rfl, by decide⟩⟩
  exact ⟨header, hpasses, hmonotone ⟨0, 600⟩ _ scored (by decide) (by decide) hpasses⟩

end PayerExample

end ArsSolana.Python
