import ArsSolana.Python.SelfTest

/-!
# Reading the dump back

What an implementation in another language makes of `asJson`: events from dictionaries by their `type`, vectors from records. A
reader takes what the writer wrote, and the writer's documents are plain.
-/

namespace ArsSolana.Python

open Py.Json

/-! ## Fields -/

/-- The text of a field. -/
def textOf : Py.Value → Option String
  | .str s => s.text?
  | _ => none

/-- The number of a field. -/
def intOf : Py.Value → Option Int
  | .int n => some n
  | _ => none

/-- The items of a field. -/
def itemsOf : Py.Value → Option (List Py.Value)
  | .list items => some items
  | _ => none

/-- The entries of a record. -/
def entriesOf : Py.Value → Option (List (Py.Str × Py.Value))
  | .dict entries => some entries
  | _ => none

@[simp] theorem entriesOf_record (fields : List (String × Py.Value)) :
    entriesOf (Py.record fields) = some (Py.entries fields) := rfl

@[simp] theorem textOf_jsonText (s : String) : textOf (jsonText s) = some s := Py.Str.text?_ofString s

@[simp] theorem intOf_int (n : Int) : intOf (.int n) = some n := rfl

@[simp] theorem itemsOf_list (items : List Py.Value) : itemsOf (.list items) = some items := rfl

theorem plain_jsonText (depth : Nat) (s : String) : Plain depth (jsonText s) := .str (whole_ofString s)

/-! ## Events -/

def outcomeOf (text : String) : Option Outcome :=
  if text = "success" then some .success else if text = "failed" then some .failed else none

def resolutionOf (text : String) : Option Resolution :=
  if text = "no_dispute" then some .noDispute
  else if text = "dispute_upheld" then some .disputeUpheld
  else if text = "dispute_rejected" then some .disputeRejected
  else none

/-- The event of a `type`, its own fields among the entries. -/
def readKind (jobId : String) (atTime : Int) (entries : List (Py.Str × Py.Value)) (type : String) : Option ArsEvent :=
  if type = "JobOpened" then do
    let agent ← textOf (Py.get entries "agent")
    let requestor ← textOf (Py.get entries "requestor")
    let exposureAtomic ← intOf (Py.get entries "exposure_atomic")
    some (.jobOpened ⟨jobId, atTime, agent, requestor, exposureAtomic⟩)
  else if type = "UnderwritingStarted" then some (.underwritingStarted ⟨jobId, atTime⟩)
  else if type = "UnderwritingDecided" then
    match Py.get entries "passed", Py.get entries "failure_code" with
    | .bool passed, .none => some (.underwritingDecided ⟨jobId, atTime, passed, none⟩)
    | .bool passed, code => do
      let failureCode ← textOf code
      some (.underwritingDecided ⟨jobId, atTime, passed, some failureCode⟩)
    | _, _ => none
  else if type = "PrincipalReleased" then do
    let amountAtomic ← intOf (Py.get entries "amount_atomic")
    some (.principalReleased ⟨jobId, atTime, amountAtomic⟩)
  else if type = "EvidenceSubmitted" then do
    let actionHash ← textOf (Py.get entries "action_hash")
    let outcome ← outcomeOf (← textOf (Py.get entries "outcome"))
    some (.evidenceSubmitted ⟨jobId, atTime, actionHash, outcome⟩)
  else if type = "Disputed" then do
    let claim ← textOf (Py.get entries "claim")
    some (.disputed ⟨jobId, atTime, claim⟩)
  else if type = "Closed" then do
    let resolution ← resolutionOf (← textOf (Py.get entries "resolution"))
    some (.closed ⟨jobId, atTime, resolution⟩)
  else none

/-- The event of a dictionary, by its `type`. -/
def readEvent (v : Py.Value) : Option ArsEvent := do
  let entries ← entriesOf v
  let jobId ← textOf (Py.get entries "job_id")
  let atTime ← intOf (Py.get entries "at")
  let type ← textOf (Py.get entries "type")
  readKind jobId atTime entries type

/-- The fields every event has are read first. -/
theorem readEvent_eq (e : ArsEvent) : readEvent e.dict = readKind e.jobId e.atTime (Py.entries e.fields) e.type := by
  have hid : Py.get (Py.entries e.fields) "job_id" = jsonText e.jobId := by
    rw [Py.get_entries]
    cases e <;> rfl
  have hat : Py.get (Py.entries e.fields) "at" = .int e.atTime := by
    rw [Py.get_entries]
    cases e <;> rfl
  have htype : Py.get (Py.entries e.fields) "type" = jsonText e.type := by
    rw [Py.get_entries]
    cases e <;> rfl
  simp only [readEvent, ArsEvent.dict, entriesOf_record, hid, hat, htype, textOf_jsonText, intOf_int, Option.bind_eq_bind,
    Option.bind_some]

/-- An event is read from its dictionary. -/
theorem readEvent_dict (e : ArsEvent) : readEvent e.dict = some e := by
  rw [readEvent_eq]
  cases e with
  | underwritingDecided o =>
    obtain ⟨jobId, atTime, passed, failureCode⟩ := o
    cases failureCode with
    | none => simp [readKind, Py.get_entries, ArsEvent.type, ArsEvent.fields, ArsEvent.jobId, ArsEvent.atTime]
    | some code =>
      simp [readKind, Py.get_entries, ArsEvent.type, ArsEvent.fields, ArsEvent.jobId, ArsEvent.atTime, jsonText, textOf]
  | evidenceSubmitted o =>
    obtain ⟨jobId, atTime, actionHash, outcome⟩ := o
    cases outcome <;>
      simp [readKind, Py.get_entries, ArsEvent.type, ArsEvent.fields, ArsEvent.jobId, ArsEvent.atTime, outcomeOf, Outcome.text]
  | closed o =>
    obtain ⟨jobId, atTime, resolution⟩ := o
    cases resolution <;>
      simp [readKind, Py.get_entries, ArsEvent.type, ArsEvent.fields, ArsEvent.jobId, ArsEvent.atTime, resolutionOf,
        Resolution.text]
  | _ => simp [readKind, Py.get_entries, ArsEvent.type, ArsEvent.fields, ArsEvent.jobId, ArsEvent.atTime]

/-- An event goes through JSON as it is. -/
theorem plain_dict (e : ArsEvent) : Plain 1 e.dict := by
  refine plain_record ?keys ?values
  case keys =>
    cases e <;> simp [ArsEvent.fields]
  case values =>
    cases e with
    | underwritingDecided o =>
      have hcode : Plain 0 (o.failureCode.elim .none jsonText) := by
        cases o.failureCode with
        | none => exact .none
        | some code => exact plain_jsonText 0 code
      simp [ArsEvent.fields, plain_jsonText, hcode, Plain.int, Plain.bool]
    | _ => simp [ArsEvent.fields, plain_jsonText, Plain.int]

/-! ## Logs -/

/-- The events of a list of dictionaries. -/
def readLog (v : Py.Value) : Option (List ArsEvent) := do
  let items ← itemsOf v
  items.mapM readEvent

/-- What each item of a list is read from, the list is read from. -/
theorem mapM_map {α β : Type} {read : β → Option α} {write : α → β} (h : ∀ a, read (write a) = some a) (as : List α) :
    (as.map write).mapM read = some as := by
  induction as with
  | nil => rfl
  | cons a as ih => simp [h, ih]

/-- The log a reader gets from the dictionaries of a log is the log. -/
theorem readLog_logDicts (log : List ArsEvent) : readLog (logDicts log) = some log := mapM_map readEvent_dict log

/-- A log goes through JSON as it is. -/
theorem plain_logDicts (log : List ArsEvent) : Plain 2 (logDicts log) := by
  refine .list ?_
  intro v hv
  obtain ⟨e, -, rfl⟩ := List.mem_map.mp hv
  exact plain_dict e

end ArsSolana.Python
