import ArsSolana.Python.Settlement
import ArsSolana.Theorems.InstructionData

/-!
# The settlement layer says what was asked

An adapter with the default resolver reads keys off texts. Each key has one text, so an intent tells the call it came from, all but
the job; and the instruction its builder encodes is signed by nobody but the payer the call names.
-/

namespace ArsSolana.Python

variable (solders : Solders)

/-- The same call for another job. -/
def SettlementCall.forJob (jobId : String) : SettlementCall → SettlementCall
  | lockCollateral _ agentId amount => lockCollateral jobId agentId amount
  | slashCollateral _ agentId payee amount => slashCollateral jobId agentId payee amount
  | unlockCollateral _ agentId => unlockCollateral jobId agentId
  | payPremium _ payer underwriter amount => payPremium jobId payer underwriter amount
  | releasePrincipal _ agentId amount => releasePrincipal jobId agentId amount

/-- A call that names its keys by their texts, with the builder it stands for. -/
inductive SettlementCall.Names : SettlementCall → Build → Prop
  | lock (jobId : String) (agent : Pubkey) (amount : Int) :
    Names (lockCollateral jobId (solders.str agent) amount) (.viewBond ⟨jobId, agent, amount, 0⟩)
  | premium (jobId : String) (payer underwriter : Pubkey) (amount : Int) :
    Names (payPremium jobId (solders.str payer) (solders.str underwriter) amount)
      (.processPoolYield ⟨jobId, payer, underwriter, amount⟩ none)

/-- The amount is a u64. -/
def SettlementCall.Fits : SettlementCall → Prop
  | lockCollateral _ _ amount => 0 ≤ amount ∧ amount < 2 ^ 64
  | payPremium _ _ _ amount => 0 ≤ amount ∧ amount < 2 ^ 64
  | _ => False

/-- Whose signature the call needs. -/
def SettlementCall.signer : SettlementCall → Option String
  | payPremium _ payer _ _ => some payer
  | _ => none

/-- The adapter without a resolver of its own. -/
abbrev defaultSettlement : TelaroSettlement := .init solders none

/-! ## What is returned -/

/-- A lock returns exactly for the text of a key, with the intent for that key. -/
theorem lockCollateral_eq_ok {jobId agentId : String} {amount : Int} {intent : InstructionIntent} :
    (defaultSettlement solders).lockCollateral jobId agentId amount = .ok intent ↔
      ∃ agent, agentId = solders.str agent ∧ intent = lockCollateralIntent ⟨jobId, agent, amount, 0⟩ PROGRAM_ID_DEVNET := by
  constructor
  · intro h
    obtain ⟨agent, hagent, h⟩ := Outcome.bind_ok h
    exact ⟨agent, solders.fromString_eq_ok.mp hagent, (Except.ok.inj h).symm⟩
  · rintro ⟨agent, rfl, rfl⟩
    have hagent : (defaultSettlement solders).resolveAgent (solders.str agent) = .ok agent := solders.fromString_eq_ok.mpr rfl
    rw [TelaroSettlement.lockCollateral, hagent]
    rfl

/-- A premium returns exactly for the texts of two keys, with the intent for these. -/
theorem payPremium_eq_ok {jobId payer underwriter : String} {amount : Int} {intent : InstructionIntent} :
    TelaroSettlement.payPremium solders jobId payer underwriter amount = .ok intent ↔
      ∃ payerKey underwriterKey, payer = solders.str payerKey ∧ underwriter = solders.str underwriterKey ∧
        intent = payPremiumIntent ⟨jobId, payerKey, underwriterKey, amount⟩ PROGRAM_ID_DEVNET := by
  constructor
  · intro h
    obtain ⟨payerKey, hpayer, h⟩ := Outcome.bind_ok h
    obtain ⟨underwriterKey, hunderwriter, h⟩ := Outcome.bind_ok h
    exact ⟨payerKey, underwriterKey, solders.fromString_eq_ok.mp hpayer,
      solders.fromString_eq_ok.mp hunderwriter, (Except.ok.inj h).symm⟩
  · rintro ⟨payerKey, underwriterKey, rfl, rfl, rfl⟩
    have hpayer := solders.fromString_eq_ok.mpr (rfl : solders.str payerKey = solders.str payerKey)
    have hunderwriter := solders.fromString_eq_ok.mpr (rfl : solders.str underwriterKey = solders.str underwriterKey)
    rw [TelaroSettlement.payPremium, hpayer, hunderwriter]
    rfl

/-- What is returned is the intent of the builder the call names. -/
theorem call_eq_ok {call : SettlementCall} {intent : InstructionIntent} :
    (defaultSettlement solders).call solders call = .ok intent ↔ ∃ b, call.Names solders b ∧ intent = b.intent PROGRAM_ID_DEVNET := by
  cases call with
  | lockCollateral jobId agentId amount =>
    constructor
    · intro h
      obtain ⟨agent, rfl, rfl⟩ := (lockCollateral_eq_ok solders).mp h
      exact ⟨_, .lock jobId agent amount, rfl⟩
    · rintro ⟨_, ⟨_, agent, _⟩, rfl⟩
      exact (lockCollateral_eq_ok solders).mpr ⟨agent, rfl, rfl⟩
  | payPremium jobId payer underwriter amount =>
    constructor
    · intro h
      obtain ⟨payerKey, underwriterKey, rfl, rfl, rfl⟩ := (payPremium_eq_ok solders).mp h
      exact ⟨_, .premium jobId payerKey underwriterKey amount, rfl⟩
    · rintro ⟨_, ⟨⟩ | ⟨_, payerKey, underwriterKey, _⟩, rfl⟩
      exact (payPremium_eq_ok solders).mpr ⟨payerKey, underwriterKey, rfl, rfl, rfl⟩
  -- The other methods always raise.
  | slashCollateral jobId agentId payee amount => exact iff_of_false (fun h => by cases h) (by rintro ⟨_, ⟨⟩, _⟩)
  | unlockCollateral jobId agentId => exact iff_of_false (fun h => by cases h) (by rintro ⟨_, ⟨⟩, _⟩)
  | releasePrincipal jobId agentId amount => exact iff_of_false (fun h => by cases h) (by rintro ⟨_, ⟨⟩, _⟩)

variable {solders}

/-- Builders of one intent are named by calls that differ in the job only. -/
theorem forJob_of_intent_eq {call call' : SettlementCall} {b b' : Build} (h : call.Names solders b) (h' : call'.Names solders b')
    (heq : b.intent PROGRAM_ID_DEVNET = b'.intent PROGRAM_ID_DEVNET) : ∃ jobId, call' = call.forJob jobId := by
  have hmethod := congrArg InstructionIntent.method heq
  have haccounts := congrArg (fun intent => intent.accounts.map IntentAccount.pubkey) heq
  have hargs := congrArg (fun intent => intent.args.map Prod.snd) heq
  cases h with
  | lock jobId agent amount =>
    cases h' with
    | lock jobId' agent' amount' =>
      obtain rfl : agent = agent' := (List.cons.inj haccounts).1
      obtain rfl : amount = amount' := (List.cons.inj hargs).1
      exact ⟨jobId', rfl⟩
    | premium jobId' payer underwriter amount' => simp [Build.intent, lockCollateralIntent, payPremiumIntent] at hmethod
  | premium jobId payer underwriter amount =>
    cases h' with
    | lock jobId' agent amount' => simp [Build.intent, lockCollateralIntent, payPremiumIntent] at hmethod
    | premium jobId' payer' underwriter' amount' =>
      obtain ⟨hpayer, hrest⟩ := List.cons.inj haccounts
      obtain rfl : payer = payer' := hpayer
      obtain rfl : underwriter = underwriter' := (List.cons.inj hrest).1
      obtain rfl : amount = amount' := (List.cons.inj hargs).1
      exact ⟨jobId', rfl⟩

/-! ## What would be sent -/

/-- A builder succeeds exactly in range. -/
theorem run_isOk_iff (py : Py.Interpreter) {programId : Pubkey} {b : Build} :
    (∃ ix, b.run py solders programId = .ok ix) ↔ b.InRange := by
  constructor
  · rintro ⟨ix, hix⟩
    by_contra hr
    obtain ⟨e, he, -⟩ := run_of_not_inRange py solders programId hr
    rw [hix] at he
    cases he
  · intro hr
    obtain ⟨ix, hix, -⟩ := run_of_inRange py solders programId hr
    exact ⟨ix, hix⟩

/-- The builder a call names is in range exactly when the amount is a u64. -/
theorem inRange_iff_fits {call : SettlementCall} {b : Build} (h : call.Names solders b) : b.InRange ↔ call.Fits := by
  cases h with
  | lock jobId agent amount =>
    constructor
    · intro hr
      exact hr.1
    · intro hf
      exact ⟨hf, (by decide : (0 : Int) ≤ 0 ∧ (0 : Int) < 2 ^ 16)⟩
  | premium jobId payer underwriter amount => exact Iff.rfl

/-- Nobody but the payer of the call signs what its builder encodes. -/
theorem signer_of_names {call : SettlementCall} {b : Build} (h : call.Names solders b) {m : AccountMeta}
    (hm : m ∈ b.accounts solders PROGRAM_ID_DEVNET) (hsigns : m.isSigner = true) : call.signer = some (solders.str m.pubkey) := by
  cases h with
  | lock jobId agent amount =>
    rw [List.mem_singleton.mp hm] at hsigns
    cases hsigns
  | premium jobId payer underwriter amount =>
    simp only [Build.accounts, List.mem_cons, List.not_mem_nil, or_false] at hm
    rcases hm with rfl | rfl | rfl | rfl | rfl
    -- the pool, its vault and the debited account
    · cases hsigns
    · cases hsigns
    · cases hsigns
    · rfl
    -- the token program
    · cases hsigns

/-- The adapter with the default resolver, over every call. It returns an intent exactly for a lock or a premium that names its keys
by their texts, and then that of the builder for those keys. Calls that return one intent are one call, but for the job. What the
builder encodes is the amount that was asked for whenever it is a u64, and is signed by the payer of the call or by nobody. -/
theorem settlement_says_what_was_asked (py : Py.Interpreter) (solders : Solders) :
    (∀ call, (∃ intent, (defaultSettlement solders).call solders call = .ok intent) ↔ ∃ b, call.Names solders b) ∧
    (∀ call call' intent, (defaultSettlement solders).call solders call = .ok intent →
      (defaultSettlement solders).call solders call' = .ok intent → ∃ jobId, call' = call.forJob jobId) ∧
    ∀ call b, call.Names solders b →
      (defaultSettlement solders).call solders call = .ok (b.intent PROGRAM_ID_DEVNET) ∧
      ((∃ ix, b.run py solders PROGRAM_ID_DEVNET = .ok ix) ↔ call.Fits) ∧
      ∀ ix, b.run py solders PROGRAM_ID_DEVNET = .ok ix →
        decodeData ix.data = some ((b.intent PROGRAM_ID_DEVNET).method, (b.intent PROGRAM_ID_DEVNET).args) ∧
        ∀ m ∈ ix.accounts, m.isSigner = true → call.signer = some (solders.str m.pubkey) := by
  refine ⟨?returns, ?unique, ?encoded⟩
  case returns =>
    intro call
    constructor
    · rintro ⟨intent, h⟩
      obtain ⟨b, hb, -⟩ := (call_eq_ok solders).mp h
      exact ⟨b, hb⟩
    · rintro ⟨b, hb⟩
      exact ⟨_, (call_eq_ok solders).mpr ⟨b, hb, rfl⟩⟩
  case unique =>
    intro call call' intent h h'
    obtain ⟨b, hb, rfl⟩ := (call_eq_ok solders).mp h
    obtain ⟨b', hb', heq⟩ := (call_eq_ok solders).mp h'
    exact forJob_of_intent_eq hb hb' heq
  case encoded =>
    intro call b hb
    refine ⟨(call_eq_ok solders).mpr ⟨b, hb, rfl⟩, (run_isOk_iff py).trans (inRange_iff_fits hb), ?_⟩
    intro ix hix
    refine ⟨decodeData_of_run hix, ?_⟩
    intro m hm hsigns
    rw [accounts_of_run hix] at hm
    exact signer_of_names hb hm hsigns

end ArsSolana.Python
