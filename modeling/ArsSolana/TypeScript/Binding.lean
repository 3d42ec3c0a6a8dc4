import Mathlib.Logic.Basic

/-!
# `binding.ts`: settlement actions as telaro instructions

The builders are those of the SDK; each action is one of them with the action's parameters. The default of every `programId` is the
SDK's `PROGRAM_ID`; here the program is always given.
-/

namespace ArsSolana.TypeScript

/-- What the SDK does: it builds an instruction, or throws. -/
structure Sdk (PublicKey Ix ε : Type) where
  PROGRAM_ID : PublicKey
  buildViewBondIx (agent : PublicKey) (minBond minScore : Int) (programId : PublicKey) : Except ε Ix
  buildResolveClaimIx (claim agent bondMint claimerBondAta signer : PublicKey) (action : Nat) (programId : PublicKey) : Except ε Ix
  buildWithdrawBondIx (agent bondMint controller controllerBondAta : PublicKey) (amount : Int) (programId : PublicKey) : Except ε Ix
  buildProcessPoolYieldIx (sourceAta sourceAuthority : PublicKey) (amount : Int) (programId : PublicKey) : Except ε Ix
  buildRequestCreditIx (agent controller : PublicKey) (amount : Int) (programId : PublicKey) : Except ε Ix

/-! ## Params -/

structure LockCollateralParams (PublicKey : Type) where
  jobId : String
  agent : PublicKey
  /-- The minimum bond the agent must hold, atomic. -/
  minBondAtomic : Int
  /-- A whole number, 0 to 1000. -/
  minScore : Int

structure SlashCollateralParams (PublicKey : Type) where
  jobId : String
  /-- The `Claim` PDA being resolved. -/
  claim : PublicKey
  agent : PublicKey
  bondMint : PublicKey
  /-- The harmed party's bond-mint ATA. -/
  claimerBondAta : PublicKey
  /-- The agent's controller, signing the accept. -/
  signer : PublicKey

structure UnlockCollateralParams (PublicKey : Type) where
  jobId : String
  agent : PublicKey
  bondMint : PublicKey
  controller : PublicKey
  controllerBondAta : PublicKey
  amountAtomic : Int

structure PayPremiumParams (PublicKey : Type) where
  jobId : String
  /-- Token account the premium is paid from. -/
  sourceAta : PublicKey
  /-- Authority that signs the transfer. -/
  sourceAuthority : PublicKey
  amountAtomic : Int

structure ReleasePrincipalParams (PublicKey : Type) where
  jobId : String
  agent : PublicKey
  controller : PublicKey
  amountAtomic : Int

/-! ## Instructions -/

variable {PublicKey Ix ε : Type} (sdk : Sdk PublicKey Ix ε)

def lockCollateralIx (params : LockCollateralParams PublicKey) (programId : PublicKey) : Except ε Ix :=
  sdk.buildViewBondIx params.agent params.minBondAtomic params.minScore programId

/-- `resolve_claim` action: the builder accepts the claim. -/
def RESOLVE_ACCEPT : Nat := 0

def slashCollateralIx (params : SlashCollateralParams PublicKey) (programId : PublicKey) : Except ε Ix :=
  sdk.buildResolveClaimIx params.claim params.agent params.bondMint params.claimerBondAta params.signer RESOLVE_ACCEPT programId

def unlockCollateralIx (params : UnlockCollateralParams PublicKey) (programId : PublicKey) : Except ε Ix :=
  sdk.buildWithdrawBondIx params.agent params.bondMint params.controller params.controllerBondAta params.amountAtomic programId

def payPremiumIx (params : PayPremiumParams PublicKey) (programId : PublicKey) : Except ε Ix :=
  sdk.buildProcessPoolYieldIx params.sourceAta params.sourceAuthority params.amountAtomic programId

def releasePrincipalIx (params : ReleasePrincipalParams PublicKey) (programId : PublicKey) : Except ε Ix :=
  sdk.buildRequestCreditIx params.agent params.controller params.amountAtomic programId

end ArsSolana.TypeScript
