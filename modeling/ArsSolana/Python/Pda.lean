import ArsSolana.Python.Solders

/-!
# `pda.py` and `constants.py`: addresses

The constants are the keys of their base58 texts. The default of every `program_id` is `PROGRAM_ID_DEVNET`; here the program is
always given.
-/

namespace ArsSolana.Python

def PROGRAM_ID_DEVNET : Pubkey :=
  (Pubkey.ofBase58 "3DUrvVWEziYLtEbiDtfxqh1ioXRFX6DNvV4iTsGed2rs").get (by decide +kernel)

def TOKEN_PROGRAM_ID : Pubkey :=
  (Pubkey.ofBase58 "TokenkegQfeZyiNwAJbNbGKPFXCWuBvf9Ss623VQ5DA").get (by decide +kernel)

def SYSTEM_PROGRAM_ID : Pubkey :=
  (Pubkey.ofBase58 "11111111111111111111111111111111").get (by decide +kernel)

/-- A bytes literal. -/
def seed (literal : String) : Bytes := literal.toList.map fun c => UInt8.ofNat c.toNat

variable (solders : Solders)

def findProgramAddress (seeds : List Bytes) (programId : Pubkey) : Pubkey × UInt8 :=
  solders.findProgramAddress seeds programId

def agentPda (controller programId : Pubkey) : Pubkey × UInt8 :=
  findProgramAddress solders [seed "agent", controller.bytes] programId

def bondVaultPda (agent programId : Pubkey) : Pubkey × UInt8 :=
  findProgramAddress solders [seed "vault", agent.bytes] programId

def depositVaultPda (claim programId : Pubkey) : Pubkey × UInt8 :=
  findProgramAddress solders [seed "deposit", claim.bytes] programId

def creditLinePda (agent programId : Pubkey) : Pubkey × UInt8 :=
  findProgramAddress solders [seed "credit-line", agent.bytes] programId

def poolConfigPda (programId : Pubkey) : Pubkey × UInt8 :=
  findProgramAddress solders [seed "pool-config"] programId

def poolVaultPda (programId : Pubkey) : Pubkey × UInt8 :=
  findProgramAddress solders [seed "pool-vault"] programId

def poolMintAuthPda (programId : Pubkey) : Pubkey × UInt8 :=
  findProgramAddress solders [seed "pool-mint-auth"] programId

def scoreFeedPda (agent programId : Pubkey) : Pubkey × UInt8 :=
  findProgramAddress solders [seed "score-feed", agent.bytes] programId

end ArsSolana.Python
