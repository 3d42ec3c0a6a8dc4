import ArsSolana.Lemmas.Signers

/-!
# Whom the gate takes for the payer

`extract_payer` promises the transfer authority: a signer that takes part in an SPL Token instruction. Its loop returns the first
signer, whatever that one takes part in. The results say exactly on which transactions the promise is kept.
-/

namespace ArsSolana.Python

/-- The transaction a payload is read as, legacy first, and whether it is a versioned one. -/
structure Payment where
  versioned : Bool
  tx : Transaction

def payment (solders : Solders) (raw : Bytes) : Option Payment :=
  match solders.transactionFromBytes raw with
  | some tx => some ⟨false, tx⟩
  | none => (solders.versionedTransactionFromBytes raw).map (⟨true, ·⟩)

/-- A key is in the account list of an instruction whose program is the SPL Token program. -/
def Transaction.InTokenInstruction (tx : Transaction) (key : Pubkey) : Prop :=
  ∃ ix ∈ tx.message.instructions, tx.message.accountKeys[ix.programIdIndex]? = some TOKEN_PROGRAM_ID ∧
    ∃ a ∈ ix.accounts, tx.message.accountKeys[a]? = some key

instance (tx : Transaction) (key : Pubkey) : Decidable (tx.InTokenInstruction key) := by
  unfold Transaction.InTokenInstruction
  infer_instance

/-- An outcome names only a signer that takes part in an SPL Token instruction, and is the refusal NO_TRANSFER where there are
signers but none of them does. -/
def NamesAuthority (solders : Solders) (tx : Transaction) (outcome : Except X402ParseError String) : Prop :=
  (∀ payer, outcome = .ok payer → ∃ key, solders.str key = payer ∧ tx.Signs key ∧ tx.InTokenInstruction key) ∧
    ((∃ key, tx.Signs key) → (∀ key, tx.Signs key → ¬tx.InTokenInstruction key) →
      ∃ message, outcome = .error ⟨.noTransfer, message⟩)

/-- The versioned loop raises on the transaction. -/
def Payment.Raises (p : Payment) : Prop := p.versioned = true ∧ p.tx.SignedBeyondKeys

instance (p : Payment) : Decidable p.Raises := inferInstanceAs (Decidable (_ ∧ _))

/-- What `_try_parse_tx` makes of a payment: nothing where it raises, else the instructions and the signers. -/
theorem tryParseTx_eq {solders : Solders} {raw : Bytes} {p : Payment} (h : payment solders raw = some p) :
    tryParseTx solders raw =
      if p.Raises then none else some ⟨p.tx.message.instructions, p.tx.signers.map solders.str⟩ := by
  unfold payment at h
  unfold tryParseTx
  cases hlegacy : solders.transactionFromBytes raw with
  | some tx =>
    rw [hlegacy] at h
    cases h
    have hno : ¬(Payment.mk false tx).Raises := by simp [Payment.Raises]
    simp only [if_neg hno, legacySigned_eq, List.nil_append]
    rfl
  | none =>
    rw [hlegacy] at h
    obtain ⟨tx, hversioned, rfl⟩ := Option.map_eq_some_iff.mp h
    have hiff : (Payment.mk true tx).Raises ↔ tx.SignedBeyondKeys := by simp [Payment.Raises]
    simp only [hversioned, Option.bind_eq_bind, Option.bind_some, versionedSigned_eq, hiff]
    by_cases hb : tx.SignedBeyondKeys <;> simp [hb]

/-- What `extract_payer` does with a transaction: it refuses one that raises or has no signer, else it names the first signer. -/
theorem extractPayer_eq {solders : Solders} {s : Py.Str} {raw : Bytes} {p : Payment} (hraw : Py.b64decode s = .ok raw)
    (h : payment solders raw = some p) :
    extractPayer solders s =
      if p.Raises then .error ⟨.malformedPayment, "payment payload is not a deserializable Solana transaction"⟩
      else
        match p.tx.signers with
        | [] => .error ⟨.unsignedPayer, "no signer present in the payment transaction"⟩
        | key :: _ => .ok (solders.str key) := by
  unfold extractPayer
  simp only [hraw, tryParseTx_eq h]
  by_cases hr : p.Raises
  · simp only [hr, if_true]
  · simp only [hr, if_false]
    cases p.tx.signers <;> rfl

/-- A transaction without signers is nobody's payment, however it is refused. -/
theorem namesAuthority_of_signers_nil (solders : Solders) {tx : Transaction} (h : tx.signers = []) (e : X402ParseError) :
    NamesAuthority solders tx (.error e) := by
  refine ⟨fun _ hok => (by cases hok), ?_⟩
  intro hex
  obtain ⟨key, hkey⟩ := hex
  rw [← mem_signers, h] at hkey
  cases hkey

/-- Naming a signer is right exactly when it takes part in an SPL Token instruction. -/
theorem namesAuthority_ok_iff {solders : Solders} {tx : Transaction} {key : Pubkey} (h : tx.Signs key) :
    NamesAuthority solders tx (.ok (solders.str key)) ↔ tx.InTokenInstruction key := by
  constructor
  · rintro ⟨hnamed, -⟩
    obtain ⟨key', hstr, -, hin⟩ := hnamed (solders.str key) rfl
    rwa [solders.str_injective hstr] at hin
  · intro hin
    refine ⟨?_, fun _ hnone => absurd hin (hnone key h)⟩
    intro payer hpayer
    cases hpayer
    exact ⟨key, rfl, h, hin⟩

/-- Any other refusal of a transaction with signers is right exactly when one of them takes part in an SPL Token instruction. -/
theorem namesAuthority_error_iff {solders : Solders} {tx : Transaction} {e : X402ParseError} (he : e.code ≠ .noTransfer)
    (h : ∃ key, tx.Signs key) :
    NamesAuthority solders tx (.error e) ↔ ∃ key, tx.Signs key ∧ tx.InTokenInstruction key := by
  constructor
  · rintro ⟨-, hrefused⟩
    by_contra hnone
    obtain ⟨message, hmessage⟩ := hrefused h fun key hkey hin => hnone ⟨key, hkey, hin⟩
    cases hmessage
    exact he rfl
  · intro hex
    obtain ⟨key, hkey, hin⟩ := hex
    exact ⟨fun _ hok => (by cases hok), fun _ hnone => absurd hin (hnone key hkey)⟩

/-- `extract_payer` keeps its promise on a transaction exactly when nobody signed it, or its first signer takes part in an SPL
Token instruction, or a signed position beyond the keys of a versioned one makes it unreadable and some signer takes part. -/
theorem extract_payer_names_authority_iff (solders : Solders) (serialized : Py.Str) (raw : Bytes) (p : Payment)
    (hraw : Py.b64decode serialized = .ok raw) (hp : payment solders raw = some p) :
    NamesAuthority solders p.tx (extractPayer solders serialized) ↔
      p.tx.signers = [] ∨
        (∃ key, p.tx.signers.head? = some key ∧ p.tx.InTokenInstruction key) ∨
        ((p.versioned = true ∧ p.tx.SignedBeyondKeys) ∧ ∃ key ∈ p.tx.signers, p.tx.InTokenInstruction key) := by
  rw [extractPayer_eq hraw hp]
  cases hs : p.tx.signers with
  | nil =>
    have hnames := fun e => namesAuthority_of_signers_nil solders hs e
    by_cases hr : p.Raises <;> simp [hr, hnames]
  | cons key rest =>
    have hfirst : p.tx.Signs key := mem_signers.mp (by rw [hs]; exact List.mem_cons_self)
    by_cases hr : p.Raises
    · have hraises : p.versioned = true ∧ p.tx.SignedBeyondKeys := hr
      rw [if_pos hr, namesAuthority_error_iff (by decide) ⟨key, hfirst⟩]
      constructor
      · intro hex
        obtain ⟨k, hk, hin⟩ := hex
        rw [← mem_signers, hs] at hk
        exact Or.inr (Or.inr ⟨hraises, k, hk, hin⟩)
      · intro hor
        rcases hor with hnil | ⟨k, hk, hin⟩ | ⟨-, k, hk, hin⟩
        · cases hnil
        · cases hk
          exact ⟨key, hfirst, hin⟩
        · rw [← hs, mem_signers] at hk
          exact ⟨k, hk, hin⟩
    · have hraises : ¬(p.versioned = true ∧ p.tx.SignedBeyondKeys) := hr
      rw [if_neg hr, namesAuthority_ok_iff hfirst]
      simp [hraises]

/-! ## Two payments on the wire -/

namespace PayerExample

open SoldersExample

/-- A length on the wire: seven bits a byte, the lowest first. -/
def wireLength (n : Nat) : Bytes :=
  if n < 0x80 then [UInt8.ofNat n] else [UInt8.ofNat (n % 0x80 + 0x80), UInt8.ofNat (n / 0x80)]

/-- A legacy transaction on the wire; its block hash is all zeros and its last account is read-only. -/
def wire (tx : Transaction) : Bytes :=
  wireLength tx.signatures.length ++ tx.signatures.flatMap (·.bytes) ++
    [UInt8.ofNat tx.message.numRequiredSignatures, 0, 1] ++
    wireLength tx.message.accountKeys.length ++ tx.message.accountKeys.flatMap (·.bytes) ++ List.replicate 32 0 ++
    wireLength tx.message.instructions.length ++ tx.message.instructions.flatMap fun ix =>
      [UInt8.ofNat ix.programIdIndex] ++ wireLength ix.accounts.length ++ ix.accounts.map UInt8.ofNat ++
        wireLength ix.data.length ++ ix.data

/-- The package on this one transaction. -/
def reading (tx : Transaction) : Solders :=
  { texts with transactionFromBytes := fun raw => if raw = wire tx then some tx else none }

def signature (b : UInt8) : Signature := ⟨List.replicate 64 b, List.length_replicate⟩

/-- An SPL transfer from account `source` to `source + 1`, under the authority of `authority`, by the program after them. -/
def transfer (source authority : Nat) : CompiledInstruction :=
  ⟨source + 2, [source, source + 1, authority], 3 :: Bytes.toLE 8 1000000⟩

/-- A payment its payer signs alone. -/
def own : Transaction :=
  ⟨[signature 1], ⟨1, [key 1, key 2, key 3, TOKEN_PROGRAM_ID], [transfer 1 0]⟩⟩

/-- The same payment with the fee paid by somebody else, who signs first. -/
def sponsored : Transaction :=
  ⟨[signature 9, signature 1], ⟨2, [key 9, key 1, key 2, key 3, TOKEN_PROGRAM_ID], [transfer 2 1]⟩⟩

/-- The payment read off the wire form of a legacy transaction is that transaction. -/
theorem payment_reading (tx : Transaction) : payment (reading tx) (wire tx) = some ⟨false, tx⟩ := by
  simp [payment, reading]

theorem own_signers : own.signers = [key 1] := by decide +kernel

theorem own_inTokenInstruction : own.InTokenInstruction (key 1) := by decide +kernel

theorem sponsored_signers : sponsored.signers = [key 9, key 1] := by decide +kernel

theorem sponsored_inTokenInstruction :
    sponsored.InTokenInstruction (key 1) ∧ ¬sponsored.InTokenInstruction (key 9) := by decide +kernel

/-- The payer of its own payment is named. -/
theorem own_payer_named : NamesAuthority (reading own) own (extractPayer (reading own) (Py.b64encode (wire own))) :=
  (extract_payer_names_authority_iff (reading own) (Py.b64encode (wire own)) (wire own) ⟨false, own⟩
    (Py.b64decode_b64encode _) (payment_reading own)).mpr
    (Or.inr (Or.inl ⟨key 1, by rw [own_signers]; rfl, own_inTokenInstruction⟩))

/-- A fee payer that takes part in no token instruction is named as the payer. -/
theorem sponsor_named :
    Py.b64decode (Py.b64encode (wire sponsored)) = .ok (wire sponsored) ∧
      payment (reading sponsored) (wire sponsored) = some ⟨false, sponsored⟩ ∧
      extractPayer (reading sponsored) (Py.b64encode (wire sponsored)) = .ok ((reading sponsored).str (key 9)) ∧
      ¬NamesAuthority (reading sponsored) sponsored (extractPayer (reading sponsored) (Py.b64encode (wire sponsored))) := by
  have hraw := Py.b64decode_b64encode (wire sponsored)
  have hp := payment_reading sponsored
  have hout : extractPayer (reading sponsored) (Py.b64encode (wire sponsored)) = .ok ((reading sponsored).str (key 9)) := by
    rw [extractPayer_eq hraw hp, if_neg (by simp [Payment.Raises])]
    simp only [sponsored_signers]
  refine ⟨hraw, hp, hout, ?_⟩
  have hsigns : sponsored.Signs (key 9) := mem_signers.mp (by rw [sponsored_signers]; exact List.mem_cons_self)
  rw [hout, namesAuthority_ok_iff hsigns]
  exact sponsored_inTokenInstruction.2

end PayerExample

end ArsSolana.Python
