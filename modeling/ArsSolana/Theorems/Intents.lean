import ArsSolana.Lemmas.Builders
import ArsSolana.Lemmas.Derivations

/-!
# What the intents say of the instructions

The module docstring of `binding.py` calls the intents the source of truth for account ordering: a readable description of what
would be sent. An intent describes the instruction its builder encodes when its accounts are found there in order and with their
flags, when the builder adds only addresses it derives itself, and when whoever must sign is a signer of the intent.
-/

namespace ArsSolana.Python

/-- The account without its role. -/
def IntentAccount.accountMeta (a : IntentAccount) : AccountMeta := ⟨a.pubkey, a.isSigner, a.isWritable⟩

/-- The addresses a builder may add by itself: those of `pda.py`, and the token and the system program. -/
def BuilderOwn (solders : Solders) (programId key : Pubkey) : Prop :=
  (∃ d : Derivation, key = (d.pda solders programId).1) ∨ key = TOKEN_PROGRAM_ID ∨ key = SYSTEM_PROGRAM_ID

/-- The intent describes the call the instruction makes. -/
structure Describes (solders : Solders) (programId : Pubkey) (intent : InstructionIntent) (ix : Instruction) : Prop where
  /-- The accounts of the intent are among those of the instruction, in order and with their flags. -/
  order : (intent.accounts.map IntentAccount.accountMeta).Sublist ix.accounts
  /-- The other accounts of the instruction are derived. -/
  added : ∀ m ∈ ix.accounts.diff (intent.accounts.map IntentAccount.accountMeta), BuilderOwn solders programId m.pubkey
  /-- Whoever the instruction requires to sign is a signer of the intent. -/
  signers : ∀ m ∈ ix.accounts, m.isSigner = true → ∃ a ∈ intent.accounts, a.pubkey = m.pubkey ∧ a.isSigner = true

/-! ## Where the account lists part -/

/-- An intent with a writable signer is of no instruction whose signers are all read-only. -/
theorem not_sublist_of_writable_signer {intent accounts : List AccountMeta} (key : Pubkey)
    (hin : ⟨key, true, true⟩ ∈ intent) (hout : ∀ m ∈ accounts, m.isSigner = true → m.isWritable = false) :
    ¬intent.Sublist accounts := by
  intro h
  have hflag := hout _ (h.subset hin) rfl
  cases hflag

/-- Which intents are found in their instructions: that of `view_bond`, and that of `request_credit` where the credit line given
is one of the four derived addresses after the agent. -/
theorem order_iff (solders : Solders) (programId : Pubkey) (b : Build) :
    ((b.intent programId).accounts.map IntentAccount.accountMeta).Sublist (b.accounts solders programId) ↔
      (∃ params, b = .viewBond params) ∨
        ∃ params controller, b = .requestCredit params controller ∧ params.creditLine ∈ [
          (creditLinePda solders params.agent programId).1, (bondVaultPda solders params.agent programId).1,
          (poolConfigPda solders programId).1, (poolVaultPda solders programId).1] := by
  cases b with
  | viewBond params =>
    constructor
    · intro _
      exact Or.inl ⟨params, rfl⟩
    · intro _
      exact List.Sublist.refl _
  | resolveClaim params action =>
    refine iff_of_false (not_sublist_of_writable_signer params.signer ?_ ?_) (by simp)
    · simp [Build.intent, slashCollateralIntent, IntentAccount.accountMeta]
    · simp [Build.accounts]
  | withdrawBond params =>
    refine iff_of_false (not_sublist_of_writable_signer params.controller ?_ ?_) (by simp)
    · simp [Build.intent, unlockCollateralIntent, IntentAccount.accountMeta]
    · simp [Build.accounts]
  | processPoolYield params sourceAta =>
    refine iff_of_false (not_sublist_of_writable_signer params.payer ?_ ?_) (by simp)
    · simp [Build.intent, payPremiumIntent, IntentAccount.accountMeta]
    · simp [Build.accounts]
  | requestCredit params controller =>
    have hhead : ((Build.requestCredit params controller).intent programId).accounts.map IntentAccount.accountMeta =
        [⟨params.agent, false, true⟩, ⟨params.creditLine, false, true⟩] := rfl
    rw [hhead, Build.accounts, List.cons_sublist_cons, List.singleton_sublist]
    simp

/-- Which intents know the signers of their instructions: all but that of `request_credit`, which has none. -/
theorem signers_iff (solders : Solders) (programId : Pubkey) (b : Build) :
    (∀ m ∈ b.accounts solders programId, m.isSigner = true →
      ∃ a ∈ (b.intent programId).accounts, a.pubkey = m.pubkey ∧ a.isSigner = true) ↔
      ∀ params controller, b ≠ .requestCredit params controller := by
  cases b with
  | requestCredit params controller =>
    refine iff_of_false ?_ (fun h => h params controller rfl)
    intro h
    have hsigner : (⟨controller.getD params.agent, true, true⟩ : AccountMeta) ∈
        (Build.requestCredit params controller).accounts solders programId := by simp [Build.accounts]
    obtain ⟨a, ha, -, hsigns⟩ := h _ hsigner rfl
    simp only [Build.intent, releasePrincipalIntent, List.mem_cons, List.not_mem_nil, or_false] at ha
    rcases ha with rfl | rfl
    · cases hsigns
    · cases hsigns
  | viewBond params => simp [Build.accounts]
  | resolveClaim params action => simp [Build.accounts, Build.intent, slashCollateralIntent]
  | withdrawBond params => simp [Build.accounts, Build.intent, unlockCollateralIntent]
  | processPoolYield params sourceAta => simp [Build.accounts, Build.intent, payPremiumIntent]

/-- The intent of a call describes the instruction its builder encodes exactly when the call is one of `view_bond`. -/
theorem intent_describes_iff (py : Py.Interpreter) (solders : Solders) (programId : Pubkey) (b : Build) (ix : Instruction)
    (h : b.run py solders programId = .ok ix) :
    Describes solders programId (b.intent programId) ix ↔ ∃ params, b = .viewBond params := by
  have haccounts := accounts_of_run h
  constructor
  · intro hdesc
    have horder := hdesc.order
    have hsigners := hdesc.signers
    rw [haccounts] at horder hsigners
    rcases (order_iff solders programId b).mp horder with hview | ⟨params, controller, hcredit, -⟩
    · exact hview
    · exact absurd hcredit ((signers_iff solders programId b).mp hsigners params controller)
  · intro hview
    obtain ⟨params, rfl⟩ := hview
    have hsame : ix.accounts = ((Build.viewBond params).intent programId).accounts.map IntentAccount.accountMeta := haccounts
    refine ⟨?order, ?added, ?signers⟩
    case order =>
      rw [hsame]
    case added =>
      intro m hm
      rw [hsame] at hm
      simp [Build.intent, lockCollateralIntent] at hm
    case signers =>
      rw [haccounts]
      exact (signers_iff solders programId _).mpr (by simp)

/-! ## Calls on devnet -/

open DevnetExample SoldersExample

/-- A `view_bond` is described by its intent. -/
theorem view_bond_described :
    Describes solders PROGRAM_ID_DEVNET (lockCollateralIntent ⟨"j", key 1, 1000000, 700⟩ PROGRAM_ID_DEVNET)
      ⟨PROGRAM_ID_DEVNET, [⟨key 1, false, false⟩], disc "view_bond" ++ Bytes.toLE 8 1000000 ++ Bytes.toLE 2 700⟩ :=
  (intent_describes_iff default solders PROGRAM_ID_DEVNET (.viewBond ⟨"j", key 1, 1000000, 700⟩) _ rfl).mpr ⟨_, rfl⟩

/-- A `withdraw_bond` is not: the intent has the controller before its token account, and writable. -/
theorem withdraw_bond_not_described :
    ∃ ix, buildWithdrawBondIx default solders ⟨"j", key 1, key 2, key 3, key 4, 42⟩ PROGRAM_ID_DEVNET = .ok ix ∧
      ¬Describes solders PROGRAM_ID_DEVNET
        (unlockCollateralIntent ⟨"j", key 1, key 2, key 3, key 4, 42⟩ PROGRAM_ID_DEVNET) ix := by
  refine ⟨_, rfl, ?_⟩
  intro h
  have hin : (⟨key 3, true, true⟩ : AccountMeta) ∈
      (unlockCollateralIntent ⟨"j", key 1, key 2, key 3, key 4, 42⟩ PROGRAM_ID_DEVNET).accounts.map
        IntentAccount.accountMeta := by simp [unlockCollateralIntent, IntentAccount.accountMeta]
  have hix := h.order.subset hin
  simp at hix

end ArsSolana.Python
