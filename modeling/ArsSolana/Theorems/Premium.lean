import ArsSolana.Lemmas.Builders
import ArsSolana.Lemmas.Derivations

/-!
# Where a premium is debited

`process_pool_yield` moves the amount from its third account to its second, the pool vault. The underwriter of `PayPremiumParams`
is documented as the one who receives the premium, and `build_process_pool_yield_ix` puts it in the slot that is debited whenever
no source account is given.
-/

namespace ArsSolana.Python

/-- What `PayPremiumParams` documents as an underwriter: the vault of the `UnderwriterPool`, or the `InsuranceVault` of a bond
mint, with the seeds of SPEC.md section 3. -/
def IsUnderwriter (solders : Solders) (programId key : Pubkey) : Prop :=
  key = (poolVaultPda solders programId).1 ∨
    ∃ bondMint : Pubkey, key = (findProgramAddress solders [seed "insurance-vault", bondMint.bytes] programId).1

/-- The transfer is not from the underwriter, nor from an account to itself: account 2 is debited, account 1 credited. -/
def FlowsToUnderwriter (params : PayPremiumParams) (ix : Instruction) : Prop :=
  ∃ vault source, ix.accounts[1]? = some vault ∧ ix.accounts[2]? = some source ∧
    source.pubkey ≠ params.underwriter ∧ source.pubkey ≠ vault.pubkey

/-- The two slots of the transfer. -/
theorem transfer_slots {py : Py.Interpreter} {solders : Solders} {programId : Pubkey} {params : PayPremiumParams}
    {sourceAta : Option Pubkey} {ix : Instruction}
    (h : buildProcessPoolYieldIx py solders params programId sourceAta = .ok ix) :
    ix.accounts[1]? = some ⟨(poolVaultPda solders programId).1, false, true⟩ ∧
      ix.accounts[2]? = some ⟨sourceAta.getD params.underwriter, false, true⟩ := by
  have haccounts : ix.accounts = (Build.processPoolYield params sourceAta).accounts solders programId :=
    accounts_of_run (b := .processPoolYield params sourceAta) h
  rw [haccounts]
  exact ⟨rfl, rfl⟩

/-- Which account must be debited for the premium to flow to the underwriter. -/
theorem flowsToUnderwriter_iff {py : Py.Interpreter} {solders : Solders} {programId : Pubkey} {params : PayPremiumParams}
    {sourceAta : Option Pubkey} {ix : Instruction}
    (h : buildProcessPoolYieldIx py solders params programId sourceAta = .ok ix) :
    FlowsToUnderwriter params ix ↔
      sourceAta.getD params.underwriter ≠ params.underwriter ∧
        sourceAta.getD params.underwriter ≠ (poolVaultPda solders programId).1 := by
  obtain ⟨hvault, hsource⟩ := transfer_slots h
  unfold FlowsToUnderwriter
  rw [hvault, hsource]
  simp

/-- Without a source account the premium never flows to the underwriter: the underwriter is debited whatever the params, and the
transfer is from the pool vault to itself exactly when the underwriter is that vault. -/
theorem premium_debits_underwriter (py : Py.Interpreter) (solders : Solders) (programId : Pubkey) (params : PayPremiumParams)
    (h : 0 ≤ params.amountAtomic ∧ params.amountAtomic < 2 ^ 64) :
    ∃ ix, buildProcessPoolYieldIx py solders params programId none = .ok ix ∧
      ¬FlowsToUnderwriter params ix ∧
      (ix.accounts[2]? = ix.accounts[1]? ↔ params.underwriter = (poolVaultPda solders programId).1) := by
  have hbuild : ∃ ix, buildProcessPoolYieldIx py solders params programId none = .ok ix := by
    rw [buildProcessPoolYieldIx, u64Le_ok py h]
    exact ⟨_, rfl⟩
  obtain ⟨ix, hix⟩ := hbuild
  refine ⟨ix, hix, ?debited, ?itself⟩
  case debited =>
    intro hflows
    exact ((flowsToUnderwriter_iff hix).mp hflows).1 rfl
  case itself =>
    obtain ⟨hvault, hsource⟩ := transfer_slots hix
    rw [hvault, hsource]
    simp

/-! ## A premium on devnet -/

namespace PremiumExample

open DevnetExample SoldersExample

/-- A premium that names the pool vault as its underwriter. -/
def premium : PayPremiumParams := ⟨"j", key 1, (poolVaultPda solders PROGRAM_ID_DEVNET).1, 1000000⟩

/-- A premium to the vault with no source given does not flow to it: the account it is taken from is the vault. -/
theorem premium_debits_vault :
    ∃ ix, buildProcessPoolYieldIx default solders premium PROGRAM_ID_DEVNET none = .ok ix ∧
      ¬FlowsToUnderwriter premium ix ∧
      (ix.accounts[2]? = ix.accounts[1]? ↔ premium.underwriter = (poolVaultPda solders PROGRAM_ID_DEVNET).1) :=
  premium_debits_underwriter default solders PROGRAM_ID_DEVNET premium (by decide)

/-- The pool vault is asked to pay the premium to itself. -/
theorem vault_pays_itself :
    IsUnderwriter solders PROGRAM_ID_DEVNET premium.underwriter ∧
      ∃ ix, buildProcessPoolYieldIx default solders premium PROGRAM_ID_DEVNET none = .ok ix ∧
        ¬FlowsToUnderwriter premium ix ∧ ix.accounts[2]? = ix.accounts[1]? := by
  obtain ⟨ix, hbuild, hself⟩ : ∃ ix, buildProcessPoolYieldIx default solders premium PROGRAM_ID_DEVNET none = .ok ix ∧
      ix.accounts[2]? = ix.accounts[1]? := ⟨_, rfl, rfl⟩
  refine ⟨Or.inl rfl, ix, hbuild, ?_, hself⟩
  intro hflows
  exact ((flowsToUnderwriter_iff hbuild).mp hflows).1 rfl

end PremiumExample

end ArsSolana.Python
