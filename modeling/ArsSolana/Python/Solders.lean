import ArsSolana.Library.Base58
import ArsSolana.Library.Python.Codec

/-!
# The types of `solders`

Keys, instructions and transactions as the modules use them. The texts of keys, deriving program addresses and reading transactions
off the wire are the package's own: `Solders` holds them as parameters.
-/

namespace ArsSolana.Python

abbrev Bytes := List UInt8

structure Pubkey where
  bytes : Bytes
  size : bytes.length = 32
  deriving DecidableEq

/-- A key is its bytes. -/
theorem Pubkey.bytes_injective : Function.Injective Pubkey.bytes := by
  rintro ⟨a, _⟩ ⟨b, _⟩ h
  cases h
  rfl

/-! ## Instructions to be sent -/

structure AccountMeta where
  pubkey : Pubkey
  isSigner : Bool
  isWritable : Bool
  deriving DecidableEq

structure Instruction where
  programId : Pubkey
  accounts : List AccountMeta
  data : Bytes
  deriving DecidableEq

/-! ## Transactions received -/

/-- An instruction of a message: its program and accounts as indexes into the account keys. -/
structure CompiledInstruction where
  programIdIndex : Nat
  accounts : List Nat
  data : Bytes
  deriving DecidableEq

/-- A message, legacy or versioned, without its block hash and its address tables. -/
structure Message where
  numRequiredSignatures : Nat
  accountKeys : List Pubkey
  instructions : List CompiledInstruction
  deriving DecidableEq

structure Signature where
  bytes : Bytes
  size : bytes.length = 64
  deriving DecidableEq

/-- What `Transaction` and `VersionedTransaction` have in common. -/
structure Transaction where
  signatures : List Signature
  message : Message
  deriving DecidableEq

/-- What the package does. -/
structure Solders where
  /-- `str(key)`. -/
  str : Pubkey → String
  /-- `Pubkey.from_string`. -/
  fromString : String → Except Py.Exception Pubkey
  /-- What is read as a key is the text of the key. -/
  fromString_eq_ok : ∀ {text key}, fromString text = .ok key ↔ text = str key
  /-- `Pubkey.find_program_address`: an address off the curve, and the bump byte that led to it. -/
  findProgramAddress : List Bytes → Pubkey → Pubkey × UInt8
  /-- `Transaction.from_bytes`, `none` when it raises. -/
  transactionFromBytes : Bytes → Option Transaction
  /-- `VersionedTransaction.from_bytes`, `none` when it raises. -/
  versionedTransactionFromBytes : Bytes → Option Transaction

/-- A key is known by its text. -/
theorem Solders.str_injective (solders : Solders) : Function.Injective solders.str := by
  intro a b h
  have hread := solders.fromString_eq_ok.mpr h
  rw [solders.fromString_eq_ok.mpr rfl] at hread
  exact Except.ok.inj hread

/-! ## Keys in base58 -/

namespace Pubkey

def toBase58 (key : Pubkey) : String := Base58.encode key.bytes

def ofBase58 (text : String) : Option Pubkey := do
  let bytes ← Base58.decode text
  if size : bytes.length = 32 then some ⟨bytes, size⟩ else none

/-- What is read as a key is the text of the key. -/
theorem ofBase58_eq_some {text : String} {key : Pubkey} : ofBase58 text = some key ↔ text = key.toBase58 := by
  constructor
  · intro h
    obtain ⟨bytes, hbytes, h⟩ := Option.bind_eq_some_iff.mp h
    split at h
    · rw [← Option.some.inj h]
      exact (Base58.encode_decode hbytes).symm
    · cases h
  · rintro rfl
    rw [ofBase58, toBase58, Base58.decode_encode]
    exact dif_pos key.size

end Pubkey

namespace SoldersExample

def key (b : UInt8) : Pubkey := ⟨List.replicate 32 b, List.length_replicate⟩

/-- A package with the texts of keys in base58, which derives no address and reads no transaction. -/
def texts : Solders where
  str := Pubkey.toBase58
  fromString text := (Pubkey.ofBase58 text).elim (.error ⟨.valueError, "Invalid Base58 string"⟩) .ok
  fromString_eq_ok := by
    intro text key
    rw [← Pubkey.ofBase58_eq_some]
    cases Pubkey.ofBase58 text <;> simp
  findProgramAddress _ programId := (programId, 255)
  transactionFromBytes _ := none
  versionedTransactionFromBytes _ := none

end SoldersExample

end ArsSolana.Python
