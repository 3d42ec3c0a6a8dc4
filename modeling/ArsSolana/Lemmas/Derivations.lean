import ArsSolana.Library.TaggedCode
import ArsSolana.Python.Pda

/-!
# The derivations of `pda.py`

The eight functions of `pda.py` are one call with different seeds: a literal that names the role of the address, and for five of
them a key. Solana hashes the seeds one after another without a delimiter.
-/

namespace ArsSolana.Python

/-- What an address is for. -/
inductive Role where
  | agent | bondVault | depositVault | creditLine | poolConfig | poolVault | poolMintAuth | scoreFeed
  deriving DecidableEq, Repr

/-- A call of one of the eight functions. -/
inductive Derivation where
  | agent (key : Pubkey)
  | bondVault (key : Pubkey)
  | depositVault (key : Pubkey)
  | creditLine (key : Pubkey)
  | poolConfig
  | poolVault
  | poolMintAuth
  | scoreFeed (key : Pubkey)
  deriving DecidableEq

/-- The literal that is the first seed, and the width of the key that follows it. -/
def Role.tag : Role → TaggedCode.Tag UInt8
  | .agent => ⟨seed "agent", 32⟩
  | .bondVault => ⟨seed "vault", 32⟩
  | .depositVault => ⟨seed "deposit", 32⟩
  | .creditLine => ⟨seed "credit-line", 32⟩
  | .poolConfig => ⟨seed "pool-config", 0⟩
  | .poolVault => ⟨seed "pool-vault", 0⟩
  | .poolMintAuth => ⟨seed "pool-mint-auth", 0⟩
  | .scoreFeed => ⟨seed "score-feed", 32⟩

namespace Derivation

/-- The address and the bump byte the function returns. -/
def pda (solders : Solders) (programId : Pubkey) : Derivation → Pubkey × UInt8
  | agent key => agentPda solders key programId
  | bondVault key => bondVaultPda solders key programId
  | depositVault key => depositVaultPda solders key programId
  | creditLine key => creditLinePda solders key programId
  | poolConfig => poolConfigPda solders programId
  | poolVault => poolVaultPda solders programId
  | poolMintAuth => poolMintAuthPda solders programId
  | scoreFeed key => scoreFeedPda solders key programId

/-- The seeds the function passes on. -/
def seeds : Derivation → List Bytes
  | agent key => [seed "agent", key.bytes]
  | bondVault key => [seed "vault", key.bytes]
  | depositVault key => [seed "deposit", key.bytes]
  | creditLine key => [seed "credit-line", key.bytes]
  | poolConfig => [seed "pool-config"]
  | poolVault => [seed "pool-vault"]
  | poolMintAuth => [seed "pool-mint-auth"]
  | scoreFeed key => [seed "score-feed", key.bytes]

/-- The address of a derivation is what the package finds for its seeds. -/
theorem pda_eq (solders : Solders) (programId : Pubkey) (d : Derivation) :
    d.pda solders programId = solders.findProgramAddress d.seeds programId := by
  cases d <;> rfl

def role : Derivation → Role
  | agent _ => .agent
  | bondVault _ => .bondVault
  | depositVault _ => .depositVault
  | creditLine _ => .creditLine
  | poolConfig => .poolConfig
  | poolVault => .poolVault
  | poolMintAuth => .poolMintAuth
  | scoreFeed _ => .scoreFeed

/-- The bytes after the literal. -/
def body : Derivation → Bytes
  | agent key | bondVault key | depositVault key | creditLine key | scoreFeed key => key.bytes
  | poolConfig | poolVault | poolMintAuth => []

/-- The seeds one after another are a tagged word. -/
theorem flatten_seeds (d : Derivation) : d.seeds.flatten = d.role.tag.text ++ d.body := by
  cases d <;> simp [seeds, role, Role.tag, body]

/-- The role of a derivation fixes the length of what follows its tag. -/
theorem length_body (d : Derivation) : d.body.length = d.role.tag.width := by
  cases d <;> simp [role, Role.tag, body, Pubkey.size]

/-- A derivation is known by its role and its key. -/
theorem eq_of_role_body {d e : Derivation} (hrole : d.role = e.role) (hbody : d.body = e.body) : d = e := by
  cases d <;> cases e <;> cases hrole <;> first
    | rfl
    | exact congrArg _ (Pubkey.bytes_injective hbody)

/-- No two roles can produce one string of seeds. -/
theorem roles_apart : ∀ r s : Role, r ≠ s → r.tag.Apart s.tag := by
  intro r s
  cases r <;> cases s <;> decide +kernel

/-- The seeds one after another determine the derivation. -/
theorem flatten_seeds_injective {d e : Derivation} (h : d.seeds.flatten = e.seeds.flatten) : d = e := by
  rw [flatten_seeds, flatten_seeds] at h
  obtain ⟨hrole, hbody⟩ := TaggedCode.word_injective roles_apart d.length_body e.length_body h
  exact eq_of_role_body hrole hbody

/-- What is hashed for the address, before the program id: the seeds and the bump byte that was found. -/
def input (solders : Solders) (programId : Pubkey) (d : Derivation) : Bytes :=
  d.seeds.flatten ++ [(d.pda solders programId).2]

/-- What is hashed for an address determines the derivation. -/
theorem input_injective {solders : Solders} {programId : Pubkey} {d e : Derivation}
    (h : d.input solders programId = e.input solders programId) : d = e :=
  flatten_seeds_injective (List.append_inj_left' h rfl)

end Derivation

/-! ## Addresses on devnet -/

namespace DevnetExample

open SoldersExample

/-- The addresses under the devnet program with their bump bytes, as far as the examples ask for them. -/
def addresses : List (List Bytes × String × UInt8) := [
  ([seed "vault", (key 1).bytes], "EmyDczEdhWN7in2JMkiBePAJTC4mZQnpY6Xp7hgYCmFp", 254),
  ([seed "deposit", (key 1).bytes], "DEUV4dYVpqRWq2NuxDnf6NrPC3GSTdGpj3fKf5DnKNnn", 254),
  ([seed "pool-config"], "8KMLjZv77zmn2HfGbkzxYvrUDWKxnttdaeQrVN7wafVD", 254),
  ([seed "pool-vault"], "FhqC1LBhHrwzcBcBM6bjYEzogVy8eVpqRyHRGJNJRgz7", 255)]

def solders : Solders :=
  { texts with findProgramAddress := fun seeds programId =>
      match addresses.lookup seeds with
      | some (text, bump) => ((Pubkey.ofBase58 text).getD programId, bump)
      | none => (programId, 255) }

end DevnetExample

end ArsSolana.Python
