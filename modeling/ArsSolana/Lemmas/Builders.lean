import ArsSolana.Python.Binding

/-!
# Calls of the five builders

A `Build` is a call of one of the builders of `binding.py`, with the intent that describes it. What the builders do with their
arguments is said once here: when they succeed, and which accounts they name.
-/

namespace ArsSolana.Python

/-- A call of one of the five builders, with its keyword arguments. -/
inductive Build where
  | viewBond (params : LockCollateralParams)
  | resolveClaim (params : SlashCollateralParams) (action : Int)
  | withdrawBond (params : UnlockCollateralParams)
  | processPoolYield (params : PayPremiumParams) (sourceAta : Option Pubkey)
  | requestCredit (params : ReleasePrincipalParams) (controller : Option Pubkey)

namespace Build

/-- What the builder returns or raises. -/
def run (py : Py.Interpreter) (solders : Solders) (programId : Pubkey) : Build → Except Py.Exception Instruction
  | viewBond params => buildViewBondIx params programId
  | resolveClaim params action => buildResolveClaimIx solders params programId action
  | withdrawBond params => buildWithdrawBondIx py solders params programId
  | processPoolYield params sourceAta => buildProcessPoolYieldIx py solders params programId sourceAta
  | requestCredit params controller => buildRequestCreditIx py solders params programId controller

/-- The matching intent for the same params; that of `resolve_claim` has action 0, and an explicit action takes its place. -/
def intent (programId : Pubkey) : Build → InstructionIntent
  | viewBond params => lockCollateralIntent params programId
  | resolveClaim params action => { slashCollateralIntent params programId with args := [("action", action)] }
  | withdrawBond params => unlockCollateralIntent params programId
  | processPoolYield params _ => payPremiumIntent params programId
  | requestCredit params _ => releasePrincipalIntent params programId

/-- The integer arguments fit their fields. -/
def InRange : Build → Prop
  | viewBond params => (0 ≤ params.minBondAtomic ∧ params.minBondAtomic < 2 ^ 64) ∧ 0 ≤ params.minScore ∧ params.minScore < 2 ^ 16
  | resolveClaim _ action => 0 ≤ action ∧ action < 2 ^ 8
  | withdrawBond params => 0 ≤ params.amountAtomic ∧ params.amountAtomic < 2 ^ 64
  | processPoolYield params _ => 0 ≤ params.amountAtomic ∧ params.amountAtomic < 2 ^ 64
  | requestCredit params _ => 0 ≤ params.amountAtomic ∧ params.amountAtomic < 2 ^ 64

end Build

/-- A number of the range of `u64` is written in eight bytes. -/
theorem u64Le_ok (py : Py.Interpreter) {value : Int} (h : 0 ≤ value ∧ value < 2 ^ 64) :
    u64Le py value = .ok (Bytes.toLE 8 value.toNat) := by
  rw [u64Le, if_neg (by omega)]

/-- A value that is no u64 raises `ValueError`, if only because its text is too long. -/
theorem u64Le_error (py : Py.Interpreter) {value : Int} (h : ¬(0 ≤ value ∧ value < 2 ^ 64)) :
    ∃ e, u64Le py value = .error e ∧ e.type = .valueError := by
  rw [u64Le, if_pos (by omega)]
  cases htext : py.strOfInt value with
  | ok text => exact ⟨_, rfl, rfl⟩
  | error e => exact ⟨e, rfl, py.strOfInt_error htext⟩

/-! ## The accounts -/

namespace Build

/-- The accounts the built instruction names, in order. -/
def accounts (solders : Solders) (programId : Pubkey) : Build → List AccountMeta
  | viewBond params => [⟨params.agent, false, false⟩]
  | resolveClaim params _ => [
    ⟨params.claim, false, true⟩,
    ⟨params.agent, false, true⟩,
    ⟨params.bondMint, false, false⟩,
    ⟨(bondVaultPda solders params.agent programId).1, false, true⟩,
    ⟨(depositVaultPda solders params.claim programId).1, false, true⟩,
    ⟨params.claimerBondAta, false, true⟩,
    ⟨params.signer, true, false⟩,
    ⟨TOKEN_PROGRAM_ID, false, false⟩]
  | withdrawBond params => [
    ⟨params.agent, false, true⟩,
    ⟨params.bondMint, false, false⟩,
    ⟨(bondVaultPda solders params.agent programId).1, false, true⟩,
    ⟨params.controllerBondAta, false, true⟩,
    ⟨params.controller, true, false⟩,
    ⟨TOKEN_PROGRAM_ID, false, false⟩]
  | processPoolYield params sourceAta => [
    ⟨(poolConfigPda solders programId).1, false, true⟩,
    ⟨(poolVaultPda solders programId).1, false, true⟩,
    ⟨sourceAta.getD params.underwriter, false, true⟩,
    ⟨params.payer, true, false⟩,
    ⟨TOKEN_PROGRAM_ID, false, false⟩]
  | requestCredit params controller => [
    ⟨params.agent, false, true⟩,
    ⟨(creditLinePda solders params.agent programId).1, false, true⟩,
    ⟨(bondVaultPda solders params.agent programId).1, false, true⟩,
    ⟨(poolConfigPda solders programId).1, false, true⟩,
    ⟨(poolVaultPda solders programId).1, false, true⟩,
    ⟨(poolMintAuthPda solders programId).1, false, false⟩,
    ⟨controller.getD params.agent, true, true⟩,
    ⟨TOKEN_PROGRAM_ID, false, false⟩,
    ⟨SYSTEM_PROGRAM_ID, false, false⟩]

end Build

/-- A builder that succeeds names its accounts. -/
theorem accounts_of_run {py : Py.Interpreter} {solders : Solders} {programId : Pubkey} {b : Build} {ix : Instruction}
    (h : b.run py solders programId = .ok ix) : ix.accounts = b.accounts solders programId := by
  cases b with
  | viewBond params =>
    rw [Build.run, buildViewBondIx] at h
    split_ifs at h
    cases h
    rfl
  | resolveClaim params action =>
    rw [Build.run, buildResolveClaimIx] at h
    split_ifs at h
    cases h
    rfl
  | withdrawBond params =>
    obtain ⟨amount, -, hix⟩ := Outcome.bind_ok h
    cases hix
    rfl
  | processPoolYield params sourceAta =>
    obtain ⟨amount, -, hix⟩ := Outcome.bind_ok h
    cases hix
    rfl
  | requestCredit params controller =>
    obtain ⟨amount, -, hix⟩ := Outcome.bind_ok h
    cases hix
    rfl

end ArsSolana.Python
