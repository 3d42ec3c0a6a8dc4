import ArsSolana.Library.KeyedLogs
import ArsSolana.TypeScript.Binding

/-!
# `client.ts`: the settlement client over a live connection

Each method builds its instruction at once and returns a promise of what the sender does with it. The sender awaits two requests,
a block hash and the confirmation of the transaction, and in between other calls go on: a `Pending` is how far one call has come,
and the answers of the connection come in any order.
-/

namespace ArsSolana.TypeScript

variable {PublicKey Keypair Ix ε : Type}

/-! ## The sender -/

/-- A web3.js transaction, as far as the sender fills it in. -/
structure Transaction (PublicKey Ix : Type) where
  instructions : List Ix
  feePayer : PublicKey
  recentBlockhash : Option String

/-- What was thrown: an error of the client itself, or one of the packages it calls. -/
inductive Thrown (ε : Type) where
  | error (message : String)
  | package (e : ε)

/-- A promise of `send`, as far as it has come. -/
inductive Sending (PublicKey Keypair Ix ε : Type) where
  /-- `getLatestBlockhash` was called. -/
  | blockhash (tx : Transaction PublicKey Ix) (signers : List Keypair)
  /-- `sendAndConfirmTransaction` was called. -/
  | confirmation (tx : Transaction PublicKey Ix) (signers : List Keypair)
  | resolved (signature : String)
  | rejected (e : Thrown ε)

/-- `connectionSender(connection).send`, up to its first `await`. -/
def send (publicKey : Keypair → PublicKey) (instructions : List Ix) (signers : List Keypair) : Sending PublicKey Keypair Ix ε :=
  match signers with
  | [] => .rejected (.error "connectionSender: at least one signer (the fee payer) is required")
  | feePayer :: _ => .blockhash ⟨instructions, publicKey feePayer, none⟩ signers

/-- `send` goes on with what it awaited; it awaits nothing when it has ended. -/
def Sending.resume : Sending PublicKey Keypair Ix ε → Except ε String → Option (Sending PublicKey Keypair Ix ε)
  | .blockhash tx signers, .ok hash => some (.confirmation { tx with recentBlockhash := some hash } signers)
  | .confirmation _ _, .ok signature => some (.resolved signature)
  | .blockhash _ _, .error e => some (.rejected (.package e))
  | .confirmation _ _, .error e => some (.rejected (.package e))
  | .resolved _, _ => none
  | .rejected _, _ => none

/-! ## The client -/

structure SettleResult where
  jobId : String
  /-- Transaction signature. -/
  signature : String
  deriving DecidableEq

/-- A promise of a settlement method. -/
structure Pending (PublicKey Keypair Ix ε : Type) where
  jobId : String
  sending : Sending PublicKey Keypair Ix ε

/-- How the promise has ended, `none` as long as it has not. -/
def Pending.outcome (p : Pending PublicKey Keypair Ix ε) : Option (Except (Thrown ε) SettleResult) :=
  match p.sending with
  | .resolved signature => some (.ok ⟨p.jobId, signature⟩)
  | .rejected e => some (.error e)
  | _ => none

/-- The client, with a sender over a connection. -/
structure TelaroSettlement (PublicKey Keypair Ix ε : Type) where
  sdk : Sdk PublicKey Ix ε
  publicKey : Keypair → PublicKey
  programId : PublicKey

namespace TelaroSettlement

/-- `new TelaroSettlement({ sender, programId })`. -/
def new (sdk : Sdk PublicKey Ix ε) (publicKey : Keypair → PublicKey) (programId : Option PublicKey) :
    TelaroSettlement PublicKey Keypair Ix ε := ⟨sdk, publicKey, programId.getD sdk.PROGRAM_ID⟩

variable (self : TelaroSettlement PublicKey Keypair Ix ε)

def run (jobId : String) (instruction : Ix) (signers : List Keypair) : Pending PublicKey Keypair Ix ε :=
  ⟨jobId, send self.publicKey [instruction] signers⟩

def lockCollateral (params : LockCollateralParams PublicKey) (signers : List Keypair) :
    Except ε (Pending PublicKey Keypair Ix ε) := do
  let instruction ← lockCollateralIx self.sdk params self.programId
  .ok (self.run params.jobId instruction signers)

def slashCollateral (params : SlashCollateralParams PublicKey) (signers : List Keypair) :
    Except ε (Pending PublicKey Keypair Ix ε) := do
  let instruction ← slashCollateralIx self.sdk params self.programId
  .ok (self.run params.jobId instruction signers)

def unlockCollateral (params : UnlockCollateralParams PublicKey) (signers : List Keypair) :
    Except ε (Pending PublicKey Keypair Ix ε) := do
  let instruction ← unlockCollateralIx self.sdk params self.programId
  .ok (self.run params.jobId instruction signers)

def payPremium (params : PayPremiumParams PublicKey) (signers : List Keypair) :
    Except ε (Pending PublicKey Keypair Ix ε) := do
  let instruction ← payPremiumIx self.sdk params self.programId
  .ok (self.run params.jobId instruction signers)

def releasePrincipal (params : ReleasePrincipalParams PublicKey) (signers : List Keypair) :
    Except ε (Pending PublicKey Keypair Ix ε) := do
  let instruction ← releasePrincipalIx self.sdk params self.programId
  .ok (self.run params.jobId instruction signers)

end TelaroSettlement

/-! ## Calls in flight -/

/-- A call of a method of `SettlementLayer`, without its signers. -/
inductive SettlementCall (PublicKey : Type) where
  | lockCollateral (params : LockCollateralParams PublicKey)
  | slashCollateral (params : SlashCollateralParams PublicKey)
  | unlockCollateral (params : UnlockCollateralParams PublicKey)
  | payPremium (params : PayPremiumParams PublicKey)
  | releasePrincipal (params : ReleasePrincipalParams PublicKey)

/-- What the method returns, or throws before there is a promise. -/
def TelaroSettlement.call (self : TelaroSettlement PublicKey Keypair Ix ε) (signers : List Keypair) :
    SettlementCall PublicKey → Except ε (Pending PublicKey Keypair Ix ε)
  | .lockCollateral params => self.lockCollateral params signers
  | .slashCollateral params => self.slashCollateral params signers
  | .unlockCollateral params => self.unlockCollateral params signers
  | .payPremium params => self.payPremium params signers
  | .releasePrincipal params => self.releasePrincipal params signers

/-- What can happen to a client: a method is called, or the connection answers what the call awaits. The number tells the calls
apart. -/
inductive ClientEvent (PublicKey Keypair ε : Type) where
  | called (id : Nat) (call : SettlementCall PublicKey) (signers : List Keypair)
  | answered (id : Nat) (answer : Except ε String)

def ClientEvent.id : ClientEvent PublicKey Keypair ε → Nat
  | called id _ _ => id
  | answered id _ => id

/-- What cannot be: a call that threw, or that was made before, or an answer to nothing. -/
inductive Refused (ε : Type) where
  | threw (e : ε)
  | calledBefore
  | notAwaited

/-- One call: it is made, and goes on with each answer. -/
def TelaroSettlement.machine (self : TelaroSettlement PublicKey Keypair Ix ε) :
    EventSourcing.Machine (Pending PublicKey Keypair Ix ε) (ClientEvent PublicKey Keypair ε) (Refused ε) where
  step
    | none, .called _ call signers => (self.call signers call).mapError .threw
    | some _, .called _ _ _ => .error .calledBefore
    | none, .answered _ _ => .error .notAwaited
    | some p, .answered _ answer =>
      match p.sending.resume answer with
      | some sending => .ok { p with sending := sending }
      | none => .error .notAwaited
  empty := .notAwaited

/-- All calls, after a run of events. -/
def TelaroSettlement.pending (self : TelaroSettlement PublicKey Keypair Ix ε) (events : List (ClientEvent PublicKey Keypair ε)) :
    Nat → Option (Pending PublicKey Keypair Ix ε) :=
  self.machine.settleAt ClientEvent.id (fun _ => none) events

/-- A transaction handed to `sendAndConfirmTransaction`, and the call it is of. -/
structure Submission (PublicKey Keypair Ix : Type) where
  id : Nat
  tx : Transaction PublicKey Ix
  signers : List Keypair

/-- What an event makes a call hand over: the block hash does. -/
def submission (before : Option (Pending PublicKey Keypair Ix ε)) (event : ClientEvent PublicKey Keypair ε) :
    List (Submission PublicKey Keypair Ix) :=
  match before, event with
  | some p, .answered id answer =>
    match p.sending.resume answer with
    | some (.confirmation tx signers) => [⟨id, tx, signers⟩]
    | _ => []
  | _, _ => []

/-- What was handed over in a run of events, by all calls. -/
def TelaroSettlement.submitted (self : TelaroSettlement PublicKey Keypair Ix ε) (events : List (ClientEvent PublicKey Keypair ε)) :
    List (Submission PublicKey Keypair Ix) :=
  self.machine.outputsAt ClientEvent.id submission (fun _ => none) events

end ArsSolana.TypeScript
