import ArsSolana.Library.Sha256
import ArsSolana.Python.Pda

/-!
# `binding.py`: settlement calls as telaro instructions

An intent says what would be sent, a builder encodes it. Both take the program id last; the keyword arguments of the builders are
explicit here, with their defaults in the docstrings.
-/

namespace ArsSolana.Python

/-- Anchor instruction discriminator: the first eight bytes of the hash of `global:<name>`. -/
def disc (name : String) : Bytes :=
  (Sha256.digest (s!"global:{name}".toList.flatMap String.utf8EncodeChar)).take 8

/-! ## Params -/

structure LockCollateralParams where
  jobId : String
  agent : Pubkey
  /-- The minimum bond the agent must hold, atomic. -/
  minBondAtomic : Int
  minScore : Int
  deriving DecidableEq

structure SlashCollateralParams where
  jobId : String
  /-- The `Claim` PDA being resolved. -/
  claim : Pubkey
  agent : Pubkey
  bondMint : Pubkey
  /-- The harmed party's bond-mint ATA. -/
  claimerBondAta : Pubkey
  /-- The agent's controller, signing the accept. -/
  signer : Pubkey
  deriving DecidableEq

structure UnlockCollateralParams where
  jobId : String
  agent : Pubkey
  bondMint : Pubkey
  controller : Pubkey
  controllerBondAta : Pubkey
  amountAtomic : Int
  deriving DecidableEq

structure PayPremiumParams where
  jobId : String
  payer : Pubkey
  /-- `UnderwriterPool` vault PDA, or the `InsuranceVault` backstop. -/
  underwriter : Pubkey
  amountAtomic : Int
  deriving DecidableEq

structure ReleasePrincipalParams where
  jobId : String
  agent : Pubkey
  /-- `CreditLine` PDA of the agent. -/
  creditLine : Pubkey
  amountAtomic : Int
  deriving DecidableEq

/-! ## Intents -/

/-- An account of an intent, in account order. -/
structure IntentAccount where
  role : String
  pubkey : Pubkey
  isSigner : Bool
  isWritable : Bool
  deriving DecidableEq

/-- A structured description of an instruction without on-chain encoding. -/
structure InstructionIntent where
  /-- Anchor instruction name. -/
  method : String
  programId : Pubkey
  accounts : List IntentAccount
  args : List (String × Int)
  deriving DecidableEq

/-- Maps `lock_collateral` onto `view_bond`. -/
def lockCollateralIntent (params : LockCollateralParams) (programId : Pubkey) : InstructionIntent where
  method := "view_bond"
  programId := programId
  accounts := [⟨"agent", params.agent, false, false⟩]
  args := [("min_bond", params.minBondAtomic), ("min_score", params.minScore)]

/-- Maps `slash_collateral` onto `resolve_claim`, accepted by the builder. -/
def slashCollateralIntent (params : SlashCollateralParams) (programId : Pubkey) : InstructionIntent where
  method := "resolve_claim"
  programId := programId
  accounts := [
    ⟨"claim", params.claim, false, true⟩,
    ⟨"agent", params.agent, false, true⟩,
    ⟨"bond_mint", params.bondMint, false, false⟩,
    ⟨"claimer_bond_ata", params.claimerBondAta, false, true⟩,
    ⟨"signer", params.signer, true, true⟩]
  args := [("action", 0)]

/-- Maps `unlock_collateral` onto `withdraw_bond`. -/
def unlockCollateralIntent (params : UnlockCollateralParams) (programId : Pubkey) : InstructionIntent where
  method := "withdraw_bond"
  programId := programId
  accounts := [
    ⟨"agent", params.agent, false, true⟩,
    ⟨"bond_mint", params.bondMint, false, false⟩,
    ⟨"controller", params.controller, true, true⟩,
    ⟨"controller_bond_ata", params.controllerBondAta, false, true⟩]
  args := [("amount", params.amountAtomic)]

/-- Maps `pay_premium` onto `process_pool_yield`. -/
def payPremiumIntent (params : PayPremiumParams) (programId : Pubkey) : InstructionIntent where
  method := "process_pool_yield"
  programId := programId
  accounts := [
    ⟨"payer", params.payer, true, true⟩,
    ⟨"underwriter", params.underwriter, false, true⟩]
  args := [("amount", params.amountAtomic)]

/-- Maps `release_principal` onto `request_credit`. -/
def releasePrincipalIntent (params : ReleasePrincipalParams) (programId : Pubkey) : InstructionIntent where
  method := "request_credit"
  programId := programId
  accounts := [
    ⟨"agent", params.agent, false, true⟩,
    ⟨"credit_line", params.creditLine, false, true⟩]
  args := [("amount", params.amountAtomic)]

/-! ## Encoded instructions -/

variable (py : Py.Interpreter) (solders : Solders)

def valueError (message : String) : Py.Exception := ⟨.valueError, message⟩

/-- Build the `view_bond` instruction: the bond as u64, the score as u16. -/
def buildViewBondIx (params : LockCollateralParams) (programId : Pubkey) : Except Py.Exception Instruction :=
  if ¬(0 ≤ params.minScore ∧ params.minScore ≤ 0xFFFF) then
    .error (valueError "min_score must fit in u16 (0..65535)")
  else if ¬(0 ≤ params.minBondAtomic ∧ params.minBondAtomic ≤ 0xFFFFFFFFFFFFFFFF) then
    .error (valueError "min_bond_atomic must fit in u64")
  else
    .ok {
      programId := programId
      accounts := [⟨params.agent, false, false⟩]
      data := disc "view_bond" ++ Bytes.toLE 8 params.minBondAtomic.toNat ++ Bytes.toLE 2 params.minScore.toNat }

/-- Anchor u64 little-endian. -/
def u64Le (value : Int) : Except Py.Exception Bytes :=
  if ¬(0 ≤ value ∧ value ≤ 0xFFFFFFFFFFFFFFFF) then do
    let text ← py.strOfInt value
    .error (valueError s!"u64 out of range: {text}")
  else .ok (Bytes.toLE 8 value.toNat)

/-- Build the `resolve_claim` instruction. The default of `action` is 0, the builder-accept path. -/
def buildResolveClaimIx (params : SlashCollateralParams) (programId : Pubkey) (action : Int) :
    Except Py.Exception Instruction :=
  if ¬(0 ≤ action ∧ action ≤ 255) then .error (valueError "action must fit in u8 (0..255)")
  else
    let (bondVault, _) := bondVaultPda solders params.agent programId
    let (depositVault, _) := depositVaultPda solders params.claim programId
    .ok {
      programId := programId
      accounts := [
        ⟨params.claim, false, true⟩,
        ⟨params.agent, false, true⟩,
        ⟨params.bondMint, false, false⟩,
        ⟨bondVault, false, true⟩,
        ⟨depositVault, false, true⟩,
        ⟨params.claimerBondAta, false, true⟩,
        ⟨params.signer, true, false⟩,
        ⟨TOKEN_PROGRAM_ID, false, false⟩]
      data := disc "resolve_claim" ++ [UInt8.ofNat action.toNat] }

/-- Build the `withdraw_bond` instruction. -/
def buildWithdrawBondIx (params : UnlockCollateralParams) (programId : Pubkey) : Except Py.Exception Instruction := do
  let (bondVault, _) := bondVaultPda solders params.agent programId
  let amount ← u64Le py params.amountAtomic
  .ok {
    programId := programId
    accounts := [
      ⟨params.agent, false, true⟩,
      ⟨params.bondMint, false, false⟩,
      ⟨bondVault, false, true⟩,
      ⟨params.controllerBondAta, false, true⟩,
      ⟨params.controller, true, false⟩,
      ⟨TOKEN_PROGRAM_ID, false, false⟩]
    data := disc "withdraw_bond" ++ amount }

/-- Build the `process_pool_yield` instruction. The default of `sourceAta` is `none`. -/
def buildProcessPoolYieldIx (params : PayPremiumParams) (programId : Pubkey) (sourceAta : Option Pubkey) :
    Except Py.Exception Instruction := do
  let (pool, _) := poolConfigPda solders programId
  let (vault, _) := poolVaultPda solders programId
  let amount ← u64Le py params.amountAtomic
  let source := sourceAta.getD params.underwriter
  .ok {
    programId := programId
    accounts := [
      ⟨pool, false, true⟩,
      ⟨vault, false, true⟩,
      ⟨source, false, true⟩,
      ⟨params.payer, true, false⟩,
      ⟨TOKEN_PROGRAM_ID, false, false⟩]
    data := disc "process_pool_yield" ++ amount }

/-- Build the `request_credit` instruction. The default of `controller` is `none`. -/
def buildRequestCreditIx (params : ReleasePrincipalParams) (programId : Pubkey) (controller : Option Pubkey) :
    Except Py.Exception Instruction := do
  let controller := controller.getD params.agent
  let (bondVault, _) := bondVaultPda solders params.agent programId
  let (creditLine, _) := creditLinePda solders params.agent programId
  let (pool, _) := poolConfigPda solders programId
  let (poolVault, _) := poolVaultPda solders programId
  let (poolMintAuth, _) := poolMintAuthPda solders programId
  let amount ← u64Le py params.amountAtomic
  .ok {
    programId := programId
    accounts := [
      ⟨params.agent, false, true⟩,
      ⟨creditLine, false, true⟩,
      ⟨bondVault, false, true⟩,
      ⟨pool, false, true⟩,
      ⟨poolVault, false, true⟩,
      ⟨poolMintAuth, false, false⟩,
      ⟨controller, true, true⟩,
      ⟨TOKEN_PROGRAM_ID, false, false⟩,
      ⟨SYSTEM_PROGRAM_ID, false, false⟩]
    data := disc "request_credit" ++ amount }

end ArsSolana.Python
