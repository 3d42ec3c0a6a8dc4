import ArsSolana.Library.Outcome
import ArsSolana.TypeScript.Client

/-!
# Settlement calls in flight do not mix

Many calls of one client may be under way at once. However the answers of the connection are interleaved, each call hands over at
most one transaction, which holds the one instruction of its own method, and a promise that is resolved names the job of its call
and the signature its own transaction was given.
-/

namespace ArsSolana.TypeScript

open EventSourcing

variable {PublicKey Keypair Ix ε : Type} (self : TelaroSettlement PublicKey Keypair Ix ε)

/-! ## One call -/

def SettlementCall.jobId : SettlementCall PublicKey → String
  | lockCollateral params => params.jobId
  | slashCollateral params => params.jobId
  | unlockCollateral params => params.jobId
  | payPremium params => params.jobId
  | releasePrincipal params => params.jobId

/-- The instruction a method is mapped to. -/
def SettlementCall.instruction : SettlementCall PublicKey → Except ε Ix
  | lockCollateral params => lockCollateralIx self.sdk params self.programId
  | slashCollateral params => slashCollateralIx self.sdk params self.programId
  | unlockCollateral params => unlockCollateralIx self.sdk params self.programId
  | payPremium params => payPremiumIx self.sdk params self.programId
  | releasePrincipal params => releasePrincipalIx self.sdk params self.programId

/-- A method throws what its builder throws, else it sends the instruction. -/
theorem call_eq (call : SettlementCall PublicKey) (signers : List Keypair) :
    self.call signers call = (call.instruction self).map fun ix => self.run call.jobId ix signers := by
  cases call with
  | lockCollateral params => exact Outcome.bind_pure _ _
  | slashCollateral params => exact Outcome.bind_pure _ _
  | unlockCollateral params => exact Outcome.bind_pure _ _
  | payPremium params => exact Outcome.bind_pure _ _
  | releasePrincipal params => exact Outcome.bind_pure _ _

/-- The transaction of a call with the instruction and the payer. -/
def transaction (ix : Ix) (payer : Keypair) (hash : Option String) : Transaction PublicKey Ix :=
  ⟨[ix], self.publicKey payer, hash⟩

/-- How far a call has come: the events it took, its promise, and what it has handed over. -/
inductive Stage (id : Nat) : List (ClientEvent PublicKey Keypair ε) → Option (Pending PublicKey Keypair Ix ε) →
    List (Submission PublicKey Keypair Ix) → Prop
  | uncalled : Stage id [] none []
  | unsigned {call : SettlementCall PublicKey} {ix : Ix} {e : Thrown ε} : call.instruction self = .ok ix →
    Stage id [.called id call []] (some ⟨call.jobId, .rejected e⟩) []
  | hashing {call : SettlementCall PublicKey} {ix : Ix} {payer : Keypair} {rest : List Keypair} :
    call.instruction self = .ok ix →
    Stage id [.called id call (payer :: rest)] (some ⟨call.jobId, .blockhash (transaction self ix payer none) (payer :: rest)⟩) []
  | unhashed {call : SettlementCall PublicKey} {signers : List Keypair} {e : ε} :
    Stage id [.called id call signers, .answered id (.error e)] (some ⟨call.jobId, .rejected (.package e)⟩) []
  | confirming {call : SettlementCall PublicKey} {ix : Ix} {payer : Keypair} {rest : List Keypair} {hash : String} :
    call.instruction self = .ok ix →
    Stage id [.called id call (payer :: rest), .answered id (.ok hash)]
      (some ⟨call.jobId, .confirmation (transaction self ix payer (some hash)) (payer :: rest)⟩)
      [⟨id, transaction self ix payer (some hash), payer :: rest⟩]
  | confirmed {call : SettlementCall PublicKey} {ix : Ix} {payer : Keypair} {rest : List Keypair} {hash signature : String} :
    call.instruction self = .ok ix →
    Stage id [.called id call (payer :: rest), .answered id (.ok hash), .answered id (.ok signature)]
      (some ⟨call.jobId, .resolved signature⟩) [⟨id, transaction self ix payer (some hash), payer :: rest⟩]
  | unconfirmed {call : SettlementCall PublicKey} {ix : Ix} {payer : Keypair} {rest : List Keypair} {hash : String} {e : ε} :
    call.instruction self = .ok ix →
    Stage id [.called id call (payer :: rest), .answered id (.ok hash), .answered id (.error e)]
      (some ⟨call.jobId, .rejected (.package e)⟩) [⟨id, transaction self ix payer (some hash), payer :: rest⟩]

variable {self} {id : Nat}

/-- An event that a call takes brings it to its next stage. -/
theorem Stage.step {log : List (ClientEvent PublicKey Keypair ε)} {p : Option (Pending PublicKey Keypair Ix ε)}
    {subs : List (Submission PublicKey Keypair Ix)} (h : Stage self id log p subs) {event : ClientEvent PublicKey Keypair ε}
    (hid : event.id = id) {next : Pending PublicKey Keypair Ix ε} (hstep : self.machine.step p event = .ok next) :
    Stage self id (log ++ [event]) (some next) (subs ++ submission p event) := by
  cases event with
  | called id' call signers =>
    obtain rfl : id' = id := hid
    cases h with
    | uncalled =>
      have hcall : (self.call signers call).mapError Refused.threw = .ok next := hstep
      replace hcall := Outcome.mapError_ok hcall
      rw [call_eq] at hcall
      cases hix : call.instruction self with
      | error e =>
        rw [hix] at hcall
        cases hcall
      | ok ix =>
        rw [hix] at hcall
        cases hcall
        cases signers with
        | nil => exact .unsigned hix
        | cons payer rest => exact .hashing hix
    -- a call is made once
    | _ => cases hstep
  | answered id' answer =>
    obtain rfl : id' = id := hid
    cases h with
    | hashing hix =>
      cases answer with
      | ok hash =>
        cases hstep
        exact .confirming hix
      | error e =>
        cases hstep
        exact .unhashed
    | confirming hix =>
      cases answer with
      | ok signature =>
        cases hstep
        exact .confirmed hix
      | error e =>
        cases hstep
        exact .unconfirmed hix
    -- the others await nothing
    | _ => cases hstep

/-- An event that a call does not take hands over nothing. -/
theorem submission_of_refused {p : Option (Pending PublicKey Keypair Ix ε)} {event : ClientEvent PublicKey Keypair ε}
    {x : Refused ε} (h : self.machine.step p event = .error x) : submission p event = [] := by
  cases p with
  | none => rfl
  | some p =>
    cases event with
    | called id call signers => rfl
    | answered id answer =>
      simp only [TelaroSettlement.machine] at h
      split at h
      · cases h
      · rename_i hresume
        simp only [submission, hresume]

/-- A submission is one of the call its event is of. -/
theorem submission_id {p : Option (Pending PublicKey Keypair Ix ε)} {event : ClientEvent PublicKey Keypair ε}
    {s : Submission PublicKey Keypair Ix} (h : s ∈ submission p event) : s.id = event.id := by
  cases p with
  | none => cases h
  | some p =>
    cases event with
    | called id call signers => cases h
    | answered id answer =>
      simp only [submission] at h
      split at h
      · rw [List.mem_singleton.mp h]
        rfl
      · cases h

/-- Through its own events a call goes from stage to stage. -/
theorem Stage.run {log : List (ClientEvent PublicKey Keypair ε)} {p : Option (Pending PublicKey Keypair Ix ε)}
    {subs : List (Submission PublicKey Keypair Ix)} (h : Stage self id log p subs)
    {events : List (ClientEvent PublicKey Keypair ε)} (hid : ∀ event ∈ events, event.id = id) :
    Stage self id (log ++ self.machine.accepted p events) (self.machine.settle p events)
      (subs ++ self.machine.outputs submission p events) := by
  induction events generalizing log p subs with
  | nil => simpa [Machine.accepted, Machine.verdicts, Machine.kept, Machine.settle, Machine.outputs] using h
  | cons event events ih =>
    obtain ⟨hevent, hevents⟩ := List.forall_mem_cons.mp hid
    rw [Machine.accepted_cons, Machine.outputs, Machine.settle, List.foldl_cons, ← Machine.settle, ← List.append_assoc,
      ← List.append_assoc]
    cases hstep : self.machine.step p event with
    | ok next =>
      rw [if_pos ((self.machine.verdict_none_iff).mpr ⟨next, hstep⟩), self.machine.offer_ok hstep]
      exact ih (h.step hevent hstep) hevents
    | error x =>
      rw [if_neg (by simp [self.machine.verdict_some_iff.mpr hstep]), self.machine.offer_error hstep,
        submission_of_refused hstep, List.append_nil, List.append_nil]
      exact ih h hevents

/-! ## All calls -/

/-- What a call has come to in a run of events, whatever is interleaved with its own. -/
theorem stage_of_events (self : TelaroSettlement PublicKey Keypair Ix ε) (events : List (ClientEvent PublicKey Keypair ε))
    (id : Nat) :
    ∃ log, log.Sublist (events.filter (fun event => event.id = id)) ∧
      Stage self id log (self.pending events id) ((self.submitted events).filter (fun s => s.id = id)) := by
  have hown : ∀ event ∈ events.filter (fun event => event.id = id), event.id = id :=
    fun event hevent => of_decide_eq_true (List.mem_filter.mp hevent).2
  have hstage := (Stage.uncalled : Stage self id [] none []).run hown
  refine ⟨_, self.machine.accepted_sublist none _, ?_⟩
  rw [TelaroSettlement.pending, TelaroSettlement.submitted, Machine.settleAt_apply,
    self.machine.outputsAt_filter ClientEvent.id fun s event b hb => submission_id hb]
  exact hstage

theorem Stage.length_le_one {log : List (ClientEvent PublicKey Keypair ε)} {p : Option (Pending PublicKey Keypair Ix ε)}
    {subs : List (Submission PublicKey Keypair Ix)} (h : Stage self id log p subs) : subs.length ≤ 1 := by
  cases h <;> simp

/-- What was handed over is the transaction of the call, once its block hash was there. -/
theorem Stage.submitted {log : List (ClientEvent PublicKey Keypair ε)} {p : Option (Pending PublicKey Keypair Ix ε)}
    {subs : List (Submission PublicKey Keypair Ix)} (h : Stage self id log p subs) {s : Submission PublicKey Keypair Ix}
    (hs : s ∈ subs) : ∃ call ix payer rest hash, call.instruction self = .ok ix ∧
      s = ⟨id, transaction self ix payer (some hash), payer :: rest⟩ ∧
      [.called id call (payer :: rest), .answered id (.ok hash)].Sublist log := by
  cases h with
  | confirming hix => exact ⟨_, _, _, _, _, hix, List.mem_singleton.mp hs, List.Sublist.refl _⟩
  | confirmed hix => exact ⟨_, _, _, _, _, hix, List.mem_singleton.mp hs, List.sublist_append_left [_, _] [_]⟩
  | unconfirmed hix => exact ⟨_, _, _, _, _, hix, List.mem_singleton.mp hs, List.sublist_append_left [_, _] [_]⟩
  -- before there is a block hash
  | _ => cases hs

/-- A promise is resolved with the answer to the transaction of the call. -/
theorem Stage.resolved {log : List (ClientEvent PublicKey Keypair ε)} {p : Option (Pending PublicKey Keypair Ix ε)}
    {subs : List (Submission PublicKey Keypair Ix)} (h : Stage self id log p subs) {result : SettleResult}
    (hresult : p.bind Pending.outcome = some (.ok result)) : ∃ call ix payer rest hash, call.instruction self = .ok ix ∧
      result.jobId = call.jobId ∧ subs = [⟨id, transaction self ix payer (some hash), payer :: rest⟩] ∧
      log = [.called id call (payer :: rest), .answered id (.ok hash), .answered id (.ok result.signature)] := by
  cases h with
  | confirmed hix =>
    cases hresult
    exact ⟨_, _, _, _, _, hix, rfl, rfl, rfl⟩
  | _ => cases hresult

/-- How the promise of a call ended, `none` when it has not or there is none. -/
def TelaroSettlement.outcome (self : TelaroSettlement PublicKey Keypair Ix ε) (events : List (ClientEvent PublicKey Keypair ε))
    (id : Nat) : Option (Except (Thrown ε) SettleResult) :=
  (self.pending events id).bind Pending.outcome

/-- In every run of calls and answers, a call hands over at most one transaction; each that was handed over has the one instruction
of its call, the first of the signers as its payer and the block hash the call was answered; a promise that is resolved names the
job of its call and the signature the call was answered after its transaction; and a call with a signer whose two requests are
answered is resolved. -/
theorem calls_do_not_mix (self : TelaroSettlement PublicKey Keypair Ix ε) (events : List (ClientEvent PublicKey Keypair ε)) :
    ((self.submitted events).map Submission.id).Nodup ∧
      (∀ s ∈ self.submitted events, ∃ call ix payer rest hash, call.instruction self = .ok ix ∧
        s.tx = transaction self ix payer (some hash) ∧ s.signers = payer :: rest ∧
        [.called s.id call (payer :: rest), .answered s.id (.ok hash)].Sublist events) ∧
      (∀ id result, self.outcome events id = some (.ok result) → ∃ call ix payer rest hash, call.instruction self = .ok ix ∧
        result.jobId = call.jobId ∧ ⟨id, transaction self ix payer (some hash), payer :: rest⟩ ∈ self.submitted events ∧
        [.called id call (payer :: rest), .answered id (.ok hash), .answered id (.ok result.signature)].Sublist events) ∧
      ∀ id call ix payer rest hash signature, call.instruction self = .ok ix →
        events.filter (fun event => event.id = id) =
          [.called id call (payer :: rest), .answered id (.ok hash), .answered id (.ok signature)] →
        self.outcome events id = some (.ok ⟨call.jobId, signature⟩) := by
  refine ⟨?once, ?submitted, ?resolved, ?ends⟩
  case once =>
    rw [List.nodup_iff_count]
    intro id
    obtain ⟨log, -, hstage⟩ := stage_of_events self events id
    rw [List.count_eq_length_filter, List.filter_map, List.length_map]
    exact hstage.length_le_one
  case submitted =>
    intro s hs
    obtain ⟨log, hlog, hstage⟩ := stage_of_events self events s.id
    have hmem : s ∈ (self.submitted events).filter (fun s' => s'.id = s.id) := List.mem_filter.mpr ⟨hs, decide_eq_true rfl⟩
    obtain ⟨call, ix, payer, rest, hash, hix, hsub, hevents⟩ := hstage.submitted hmem
    exact ⟨call, ix, payer, rest, hash, hix, congrArg Submission.tx hsub, congrArg Submission.signers hsub,
      hevents.trans (hlog.trans List.filter_sublist)⟩
  case resolved =>
    intro id result hresult
    obtain ⟨log, hlog, hstage⟩ := stage_of_events self events id
    obtain ⟨call, ix, payer, rest, hash, hix, hjob, hsubs, rfl⟩ := hstage.resolved hresult
    have hmem := hsubs ▸ List.mem_singleton_self _
    exact ⟨call, ix, payer, rest, hash, hix, hjob, (List.mem_filter.mp hmem).1, hlog.trans List.filter_sublist⟩
  case ends =>
    intro id call ix payer rest hash signature hix hown
    have hcall : self.call (payer :: rest) call = .ok (self.run call.jobId ix (payer :: rest)) := by
      rw [call_eq, hix]
      rfl
    have hrun : self.machine.run none [.called id call (payer :: rest), .answered id (.ok hash), .answered id (.ok signature)] =
        .ok (some ⟨call.jobId, .resolved signature⟩) := by
      have hfirst : self.machine.step none (.called id call (payer :: rest)) = .ok (self.run call.jobId ix (payer :: rest)) :=
        congrArg (Except.mapError Refused.threw) hcall
      rw [self.machine.run_cons_ok hfirst]
      rfl
    rw [TelaroSettlement.outcome, TelaroSettlement.pending, Machine.settleAt_apply, hown, self.machine.settle_of_run hrun]
    rfl

/-! ## Two calls in flight -/

namespace ClientExample

/-- Builders that only say which they are. -/
def sdk : Sdk String String Unit where
  PROGRAM_ID := "telaro"
  buildViewBondIx _ _ _ _ := .ok "view_bond"
  buildResolveClaimIx _ _ _ _ _ _ _ := .ok "resolve_claim"
  buildWithdrawBondIx _ _ _ _ _ _ := .ok "withdraw_bond"
  buildProcessPoolYieldIx _ _ _ _ := .ok "process_pool_yield"
  buildRequestCreditIx _ _ _ _ := .ok "request_credit"

/-- A lock and a release, whose answers overtake each other. -/
def inFlight : List (ClientEvent String String Unit) := [
  .called 0 (.lockCollateral ⟨"a", "agent", 5, 700⟩) ["payer"],
  .called 1 (.releasePrincipal ⟨"b", "agent", "controller", 3⟩) ["controller"],
  .answered 1 (.ok "hash 1"),
  .answered 0 (.ok "hash 0"),
  .answered 1 (.ok "signature 1"),
  .answered 0 (.ok "signature 0")]

/-- A client for the program of the SDK, with keys that stand for themselves. -/
def client : TelaroSettlement String String String Unit := .new sdk (fun signer => signer) none

example : client.outcome inFlight 0 = some (.ok ⟨"a", "signature 0"⟩) := rfl

example : (client.submitted inFlight).map (fun s => (s.id, s.tx.instructions, s.tx.recentBlockhash)) =
    [(1, ["request_credit"], some "hash 1"), (0, ["view_bond"], some "hash 0")] := rfl

end ClientExample

end ArsSolana.TypeScript
