import ArsSolana.Python.Binding

/-!
# `settlement.py`: the settlement layer

`TelaroSettlement` takes keys as texts and returns intents; nothing is sent. Three of its methods need an address it does not
derive, and always raise. The methods are coroutines that do not suspend: each is what awaiting it gives.
-/

namespace ArsSolana.Python

/-- An adapter: how it finds the PDA of an agent. -/
structure TelaroSettlement where
  resolveAgent : String → Except Py.Exception Pubkey

variable (solders : Solders)

/-- `TelaroSettlement(agent_pda_resolver)`: by default the agent is already the text of its PDA. -/
def TelaroSettlement.init (agentPdaResolver : Option (String → Except Py.Exception Pubkey)) : TelaroSettlement :=
  ⟨agentPdaResolver.getD solders.fromString⟩

def notImplementedError (message : String) : Py.Exception := ⟨.other "NotImplementedError", message⟩

namespace TelaroSettlement

variable (self : TelaroSettlement)

/-- The amount is the least bond the agent must hold for the job. -/
def lockCollateral (jobId agentId : String) (amount : Int) : Except Py.Exception InstructionIntent := do
  let agent ← self.resolveAgent agentId
  let params : LockCollateralParams := { jobId := jobId, agent := agent, minBondAtomic := amount, minScore := 0 }
  .ok (lockCollateralIntent params PROGRAM_ID_DEVNET)

def slashCollateral (_jobId _agentId _payee : String) (_amount : Int) : Except Py.Exception InstructionIntent :=
  .error (notImplementedError ("slash_collateral requires a Claim PDA. Construct " ++
    "SlashCollateralParams directly and call " ++
    "slash_collateral_intent(); the resolver does not auto-" ++
    "derive the Claim PDA in v0.1."))

def unlockCollateral (_jobId _agentId : String) : Except Py.Exception InstructionIntent :=
  .error (notImplementedError ("unlock_collateral requires bond_mint, controller, and " ++
    "controller_bond_ata. Construct UnlockCollateralParams " ++
    "directly and call unlock_collateral_intent()."))

/-- The payer is read before the underwriter. -/
def payPremium (jobId payer underwriter : String) (amount : Int) : Except Py.Exception InstructionIntent := do
  let payerKey ← solders.fromString payer
  let underwriterKey ← solders.fromString underwriter
  let params : PayPremiumParams := { jobId := jobId, payer := payerKey, underwriter := underwriterKey, amountAtomic := amount }
  .ok (payPremiumIntent params PROGRAM_ID_DEVNET)

def releasePrincipal (_jobId _agentId : String) (_amount : Int) : Except Py.Exception InstructionIntent :=
  .error (notImplementedError ("release_principal requires the CreditLine PDA. Derive it " ++
    "from ['credit-line', agent] and call " ++
    "release_principal_intent(ReleasePrincipalParams(...))."))

end TelaroSettlement

/-! ## Calls of the methods -/

/-- A call of one of the five methods of `SettlementLayer`. -/
inductive SettlementCall where
  | lockCollateral (jobId agentId : String) (amount : Int)
  | slashCollateral (jobId agentId payee : String) (amount : Int)
  | unlockCollateral (jobId agentId : String)
  | payPremium (jobId payer underwriter : String) (amount : Int)
  | releasePrincipal (jobId agentId : String) (amount : Int)
  deriving DecidableEq

/-- What the call returns or raises. -/
def TelaroSettlement.call (self : TelaroSettlement) : SettlementCall → Except Py.Exception InstructionIntent
  | .lockCollateral jobId agentId amount => self.lockCollateral jobId agentId amount
  | .slashCollateral jobId agentId payee amount => slashCollateral jobId agentId payee amount
  | .unlockCollateral jobId agentId => unlockCollateral jobId agentId
  | .payPremium jobId payer underwriter amount => payPremium solders jobId payer underwriter amount
  | .releasePrincipal jobId agentId amount => releasePrincipal jobId agentId amount

end ArsSolana.Python
