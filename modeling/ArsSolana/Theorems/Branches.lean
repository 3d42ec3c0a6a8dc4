import ArsSolana.Lemmas.Signers

/-!
# The legacy and the versioned branch collect the same signers

`_try_parse_tx` reads the signers of a transaction in two loops. One walks over the required keys and looks for their signatures,
the other walks over the signatures and looks for their keys. Both find the keys of the signed positions; they part only where a
signed position has no key.
-/

namespace ArsSolana.Python

section Branches

variable (solders : Solders)

/-- What the branch for a legacy transaction returns. -/
def legacyBranch (tx : Transaction) : Option ParsedTx :=
  let msg := tx.message
  some ⟨msg.instructions, legacySigned solders tx.signatures 0 (msg.accountKeys.take msg.numRequiredSignatures) []⟩

/-- What the branch for a versioned transaction returns, `none` when it raises. -/
def versionedBranch (vtx : Transaction) : Option ParsedTx := do
  let msg := vtx.message
  let signed ← versionedSigned solders msg.numRequiredSignatures msg.accountKeys 0 vtx.signatures []
  some ⟨msg.instructions, signed⟩

end Branches

/-- The keys of the required-signer positions that carry a signature, position by position. -/
def Transaction.signedKeys (tx : Transaction) : List Pubkey :=
  (List.range tx.message.numRequiredSignatures).filterMap fun i =>
    if SignedAt tx.signatures i then tx.message.accountKeys[i]? else none

/-- A signed required-signer position has no key. -/
def Transaction.Unkeyed (tx : Transaction) : Prop :=
  ∃ i, tx.message.accountKeys.length ≤ i ∧ i < min tx.message.numRequiredSignatures tx.signatures.length ∧
    SignedAt tx.signatures i

/-- The signers of two runs of positions are those of the first and then those of the second. -/
theorem signersFrom_append (sigs : List Signature) (i : Nat) (keys keys' : List Pubkey) :
    signersFrom sigs i (keys ++ keys') = signersFrom sigs i keys ++ signersFrom sigs (i + keys.length) keys' := by
  induction keys generalizing i with
  | nil => rfl
  | cons key keys ih =>
    have hlen : i + (key :: keys).length = i + 1 + keys.length := by
      rw [List.length_cons]
      omega
    rw [List.cons_append, signersFrom, signersFrom, ih, hlen, List.append_assoc]

/-- The first `n` keys contribute what the first `n` positions contribute. -/
theorem signersFrom_take (sigs : List Signature) (keys : List Pubkey) (n : Nat) :
    signersFrom sigs 0 (keys.take n) =
      (List.range n).filterMap fun i => if SignedAt sigs i then keys[i]? else none := by
  induction n with
  | zero => rfl
  | succ n ih =>
    rw [List.take_add_one, signersFrom_append, ih, List.range_succ, List.filterMap_append]
    congr 1
    cases hkey : keys[n]? with
    | none => by_cases hs : SignedAt sigs n <;> simp [signersFrom, hkey, hs]
    | some key =>
      have hlt : n < keys.length := (List.getElem?_eq_some_iff.mp hkey).1
      have hlen : 0 + (keys.take n).length = n := by
        rw [List.length_take, Nat.zero_add, Nat.min_eq_left (Nat.le_of_lt hlt)]
      rw [hlen]
      by_cases hs : SignedAt sigs n <;> simp [signersFrom, hkey, hs]

/-- The signers are the keys of the signed positions. -/
theorem signers_eq_signedKeys (tx : Transaction) : tx.signers = tx.signedKeys :=
  signersFrom_take tx.signatures tx.message.accountKeys tx.message.numRequiredSignatures

/-- A signed position has no key exactly when one beyond the keys is signed. -/
theorem unkeyed_iff {tx : Transaction} : tx.Unkeyed ↔ tx.SignedBeyondKeys := by
  constructor
  · intro h
    obtain ⟨i, hkeys, hlt, hs⟩ := h
    exact ⟨i, by omega, hkeys, hs⟩
  · intro h
    obtain ⟨i, hlt, hkeys, hs⟩ := h
    have hsig : i < tx.signatures.length := by
      by_contra hle
      exact not_signedAt_of_length_le (by omega) hs
    exact ⟨i, hkeys, by omega, hs⟩

/-- The legacy branch returns the keys of the signed positions. -/
theorem legacyBranch_eq (solders : Solders) (tx : Transaction) :
    legacyBranch solders tx = some ⟨tx.message.instructions, tx.signedKeys.map solders.str⟩ := by
  rw [legacyBranch, legacySigned_eq, List.nil_append, ← signers_eq_signedKeys]
  rfl

/-- The versioned branch returns the same keys, or raises where a signed position has none. -/
theorem versionedBranch_eq (solders : Solders) (tx : Transaction) :
    versionedBranch solders tx =
      if tx.SignedBeyondKeys then none else some ⟨tx.message.instructions, tx.signedKeys.map solders.str⟩ := by
  rw [versionedBranch, versionedSigned_eq, ← signers_eq_signedKeys]
  split <;> rfl

/-- The two branches of `_try_parse_tx` collect the same signers. With a key for every required position both return the keys of
the signed positions in order. Without, they still agree, unless a signed position has no key: then the versioned branch finds no
transaction, and the legacy one returns the signed keys there are. -/
theorem branches_collect_alike (solders : Solders) (tx : Transaction) :
    (∀ raw : Bytes, tryParseTx solders raw =
      match solders.transactionFromBytes raw with
      | some tx => legacyBranch solders tx
      | none => solders.versionedTransactionFromBytes raw >>= versionedBranch solders) ∧
    (tx.message.numRequiredSignatures ≤ tx.message.accountKeys.length →
      legacyBranch solders tx = some ⟨tx.message.instructions, tx.signedKeys.map solders.str⟩ ∧
        versionedBranch solders tx = some ⟨tx.message.instructions, tx.signedKeys.map solders.str⟩) ∧
    (¬tx.Unkeyed → versionedBranch solders tx = legacyBranch solders tx) ∧
    (tx.Unkeyed → versionedBranch solders tx = none ∧
      legacyBranch solders tx = some ⟨tx.message.instructions, tx.signedKeys.map solders.str⟩) := by
  refine ⟨?branches, ?keyed, ?agree, ?part⟩
  case branches =>
    intro raw
    unfold tryParseTx
    cases solders.transactionFromBytes raw <;> rfl
  case keyed =>
    intro hle
    have hno : ¬tx.SignedBeyondKeys := by
      intro h
      obtain ⟨i, hlt, hkeys, -⟩ := h
      omega
    rw [versionedBranch_eq, if_neg hno]
    exact ⟨legacyBranch_eq solders tx, rfl⟩
  case agree =>
    intro hno
    rw [unkeyed_iff] at hno
    rw [versionedBranch_eq, if_neg hno, legacyBranch_eq]
  case part =>
    intro h
    rw [unkeyed_iff] at h
    rw [versionedBranch_eq, if_pos h]
    exact ⟨rfl, legacyBranch_eq solders tx⟩

end ArsSolana.Python
