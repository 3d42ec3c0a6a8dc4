import ArsSolana.Python.X402

/-!
# Who signed a transaction

The signers of a transaction are the keys of the required-signer positions that carry a signature. Both loops of `_try_parse_tx`
collect them, but the versioned one raises where a signed position has no key.
-/

namespace ArsSolana.Python

/-- Position `i` carries a signature. -/
def SignedAt (sigs : List Signature) (i : Nat) : Prop := ∃ sig, sigs[i]? = some sig ∧ sig.bytes ≠ zeroSignature

instance (sigs : List Signature) (i : Nat) : Decidable (SignedAt sigs i) :=
  decidable_of_iff ((sigs[i]?).any fun sig => sig.bytes ≠ zeroSignature) (by simp [SignedAt, Option.any_eq_true])

/-- Past the last signature nobody signed. -/
theorem not_signedAt_of_length_le {sigs : List Signature} {i : Nat} (h : sigs.length ≤ i) : ¬SignedAt sigs i := by
  intro hs
  obtain ⟨sig, hsig, -⟩ := hs
  rw [List.getElem?_eq_none h] at hsig
  cases hsig

/-- The keys of a run of positions that carry a signature, in order; the run starts at position `i`. -/
def signersFrom (sigs : List Signature) (i : Nat) : List Pubkey → List Pubkey
  | [] => []
  | key :: keys => (if SignedAt sigs i then [key] else []) ++ signersFrom sigs (i + 1) keys

/-- The keys of the required-signer positions that carry a signature, in order. -/
def Transaction.signers (tx : Transaction) : List Pubkey :=
  signersFrom tx.signatures 0 (tx.message.accountKeys.take tx.message.numRequiredSignatures)

/-- A key occupies a required-signer position that carries a signature. -/
def Transaction.Signs (tx : Transaction) (key : Pubkey) : Prop :=
  ∃ i < tx.message.numRequiredSignatures, tx.message.accountKeys[i]? = some key ∧ SignedAt tx.signatures i

/-- The keys collected from a slot on are those whose slot is signed. -/
theorem mem_signersFrom {sigs : List Signature} {i : Nat} {keys : List Pubkey} {key : Pubkey} :
    key ∈ signersFrom sigs i keys ↔ ∃ k, keys[k]? = some key ∧ SignedAt sigs (i + k) := by
  induction keys generalizing i with
  | nil => simp [signersFrom]
  | cons key' keys ih =>
    rw [signersFrom, List.mem_append, ih]
    constructor
    · intro hor
      rcases hor with h | ⟨k, hk, hs⟩
      · split at h
        · exact ⟨0, by rw [List.mem_singleton.mp h]; rfl, by assumption⟩
        · cases h
      · exact ⟨k + 1, by simpa using hk, by rwa [Nat.add_assoc, Nat.add_comm 1 k] at hs⟩
    · intro hex
      obtain ⟨k, hk, hs⟩ := hex
      cases k with
      | zero =>
        obtain rfl : key' = key := by simpa using hk
        rw [Nat.add_zero] at hs
        exact Or.inl (by rw [if_pos hs]; exact List.mem_singleton_self _)
      | succ k => exact Or.inr ⟨k, by simpa using hk, by rwa [Nat.add_assoc, Nat.add_comm 1 k]⟩

/-- The collected signers are the keys that signed. -/
theorem mem_signers {tx : Transaction} {key : Pubkey} : key ∈ tx.signers ↔ tx.Signs key := by
  unfold Transaction.signers Transaction.Signs
  rw [mem_signersFrom]
  constructor
  · intro hex
    obtain ⟨k, hk, hs⟩ := hex
    rw [List.getElem?_take] at hk
    split at hk
    · exact ⟨k, by assumption, hk, by rwa [Nat.zero_add] at hs⟩
    · cases hk
  · intro hex
    obtain ⟨k, hlt, hk, hs⟩ := hex
    exact ⟨k, by rw [List.getElem?_take, if_pos hlt, hk], by rwa [Nat.zero_add]⟩

/-! ## The legacy loop -/

/-- The legacy loop collects the keys of the signed positions. -/
theorem legacySigned_eq (solders : Solders) (sigs : List Signature) (i : Nat) (keys : List Pubkey) (signed : List String) :
    legacySigned solders sigs i keys signed = signed ++ (signersFrom sigs i keys).map solders.str := by
  induction keys generalizing i signed with
  | nil => simp [legacySigned, signersFrom]
  | cons key keys ih =>
    rw [legacySigned, signersFrom]
    cases hsig : sigs[i]? with
    | none =>
      have hno : ¬SignedAt sigs i := by simp [SignedAt, hsig]
      simp only [hno, if_false, List.nil_append]
      exact ih (i + 1) signed
    | some sig =>
      have hiff : SignedAt sigs i ↔ sig.bytes ≠ zeroSignature := by simp [SignedAt, hsig]
      simp only [ih, hiff]
      by_cases hz : sig.bytes = zeroSignature <;> simp [hz]

/-! ## The versioned loop -/

/-- A required-signer position beyond the account keys carries a signature. -/
def Transaction.SignedBeyondKeys (tx : Transaction) : Prop :=
  ∃ i < tx.message.numRequiredSignatures, tx.message.accountKeys.length ≤ i ∧ SignedAt tx.signatures i

instance (tx : Transaction) : Decidable tx.SignedBeyondKeys := by
  unfold Transaction.SignedBeyondKeys
  infer_instance

/-- From position `m` on, a position below `n` that has no key carries a signature. -/
def SignedWithoutKey (sigs : List Signature) (keys : List Pubkey) (n m : Nat) : Prop :=
  ∃ i < n, m ≤ i ∧ keys.length ≤ i ∧ SignedAt sigs i

instance (sigs : List Signature) (keys : List Pubkey) (n m : Nat) : Decidable (SignedWithoutKey sigs keys n m) := by
  unfold SignedWithoutKey
  infer_instance

/-- A position that carries no signature, or has a key, is passed over. -/
theorem signedWithoutKey_succ {sigs : List Signature} {keys : List Pubkey} {n m : Nat}
    (h : ¬(keys.length ≤ m ∧ SignedAt sigs m)) :
    SignedWithoutKey sigs keys n m ↔ SignedWithoutKey sigs keys n (m + 1) := by
  constructor
  · intro hex
    obtain ⟨i, hlt, hle, hkey, hs⟩ := hex
    have hne : i ≠ m := by
      intro hi
      subst hi
      exact h ⟨hkey, hs⟩
    exact ⟨i, hlt, by omega, hkey, hs⟩
  · intro hex
    obtain ⟨i, hlt, hle, hkey, hs⟩ := hex
    exact ⟨i, hlt, by omega, hkey, hs⟩

/-- From past the last signature on, nobody is collected. -/
theorem signersFrom_nil_of_length_le {sigs : List Signature} {i : Nat} (h : sigs.length ≤ i) (keys : List Pubkey) :
    signersFrom sigs i keys = [] := by
  induction keys generalizing i with
  | nil => rfl
  | cons key keys ih =>
    rw [signersFrom, if_neg (not_signedAt_of_length_le h), ih (by omega)]
    rfl

/-- A position that carries no signature adds no signer. -/
theorem signersFrom_drop_unsigned {sigs : List Signature} {i : Nat} (h : ¬SignedAt sigs i) (keys : List Pubkey) :
    signersFrom sigs i (keys.drop i) = signersFrom sigs (i + 1) (keys.drop (i + 1)) := by
  by_cases hk : i < keys.length
  · rw [List.drop_eq_getElem_cons hk, signersFrom, if_neg h, List.nil_append]
  · rw [List.drop_eq_nil_of_le (by omega), List.drop_eq_nil_of_le (by omega)]
    rfl

/-- A position that carries a signature adds its key. -/
theorem signersFrom_drop_signed {sigs : List Signature} {i : Nat} (h : SignedAt sigs i) {keys : List Pubkey} {key : Pubkey}
    (hkey : keys[i]? = some key) :
    signersFrom sigs i (keys.drop i) = key :: signersFrom sigs (i + 1) (keys.drop (i + 1)) := by
  obtain ⟨hlt, rfl⟩ := List.getElem?_eq_some_iff.mp hkey
  rw [List.drop_eq_getElem_cons hlt, signersFrom, if_pos h, List.singleton_append]

/-- The versioned loop, from the position where `rest` begins: it raises if a signed position has no key, else it collects the
keys of the signed positions. -/
theorem versionedSigned_from (solders : Solders) (n : Nat) (keys : List Pubkey) (before rest : List Signature)
    (signed : List String) :
    versionedSigned solders n keys before.length rest signed =
      if SignedWithoutKey (before ++ rest) keys n before.length then none
      else some (signed ++
        (signersFrom (before ++ rest) before.length ((keys.take n).drop before.length)).map solders.str) := by
  induction rest generalizing before signed with
  | nil =>
    have hno : ¬SignedWithoutKey (before ++ []) keys n before.length := by
      intro h
      obtain ⟨i, -, hle, -, hs⟩ := h
      exact not_signedAt_of_length_le (by simpa using hle) hs
    rw [if_neg hno, signersFrom_nil_of_length_le (by simp)]
    simp [versionedSigned]
  | cons sig rest ih =>
    rw [versionedSigned]
    by_cases hn : n ≤ before.length
    · have hno : ¬SignedWithoutKey (before ++ sig :: rest) keys n before.length := by
        intro h
        obtain ⟨i, hlt, hle, -⟩ := h
        omega
      have hdrop : (keys.take n).drop before.length = [] := List.drop_eq_nil_of_le (by simp; omega)
      rw [if_pos hn, if_neg hno, hdrop]
      simp [signersFrom]
    · rw [if_neg hn]
      -- what the rest of the loop does, by the induction hypothesis
      have hnext := fun signed => ih (before ++ [sig]) signed
      simp only [List.append_assoc, List.singleton_append, List.length_append, List.length_singleton] at hnext
      have hat : SignedAt (before ++ sig :: rest) before.length ↔ sig.bytes ≠ zeroSignature := by
        simp [SignedAt]
      by_cases hz : sig.bytes = zeroSignature
      · have hunsigned : ¬SignedAt (before ++ sig :: rest) before.length := by simp [hat, hz]
        have hpass : ¬(keys.length ≤ before.length ∧ SignedAt (before ++ sig :: rest) before.length) :=
          fun h => hunsigned h.2
        rw [if_neg (not_not_intro hz), hnext, signersFrom_drop_unsigned hunsigned]
        simp only [signedWithoutKey_succ hpass]
      · have hsigned : SignedAt (before ++ sig :: rest) before.length := hat.mpr hz
        rw [if_pos hz]
        cases hkey : keys[before.length]? with
        | none =>
          have hle : keys.length ≤ before.length := List.getElem?_eq_none_iff.mp hkey
          have hraises : SignedWithoutKey (before ++ sig :: rest) keys n before.length :=
            ⟨before.length, by omega, Nat.le_refl _, hle, hsigned⟩
          rw [if_pos hraises]
        | some key =>
          have hlt : before.length < keys.length := (List.getElem?_eq_some_iff.mp hkey).1
          have hpass : ¬(keys.length ≤ before.length ∧ SignedAt (before ++ sig :: rest) before.length) :=
            fun h => absurd h.1 (by omega)
          have htake : (keys.take n)[before.length]? = some key := by
            rw [List.getElem?_take, if_pos (by omega), hkey]
          simp only [hnext, signedWithoutKey_succ hpass, signersFrom_drop_signed hsigned htake, List.map_cons,
            List.append_assoc, List.singleton_append]

/-- The versioned loop raises exactly when a signed position has no key, else it collects the signers. -/
theorem versionedSigned_eq (solders : Solders) (tx : Transaction) :
    versionedSigned solders tx.message.numRequiredSignatures tx.message.accountKeys 0 tx.signatures [] =
      if tx.SignedBeyondKeys then none else some (tx.signers.map solders.str) := by
  have h := versionedSigned_from solders tx.message.numRequiredSignatures tx.message.accountKeys [] tx.signatures []
  have hiff : SignedWithoutKey tx.signatures tx.message.accountKeys tx.message.numRequiredSignatures 0 ↔
      tx.SignedBeyondKeys := by
    simp only [SignedWithoutKey, Transaction.SignedBeyondKeys, Nat.zero_le, true_and]
  simp only [List.length_nil, List.nil_append, List.drop_zero, hiff] at h
  rw [h]
  rfl

end ArsSolana.Python
