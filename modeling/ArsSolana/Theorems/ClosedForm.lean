import ArsSolana.Lemmas.PythonTrack
import ArsSolana.Lemmas.TypeScriptTrack

/-!
# A job is the closed form of its log

What each field of a replayed job is, as a function of the log, and which fields of the events no job depends on.
-/

namespace ArsSolana

open EventSourcing EventSourcing.Machine

/-! ## The track -/

/-- Only a release has an amount. -/
theorem Entry.amount_of_letter {e : Entry} (h : e.letter ≠ .released) : e.amount = 0 := by
  cases hm : e.move <;> simp_all [Entry.letter, Entry.amount, Move.letter, Move.amount]

/-- A log without a release releases nothing. -/
theorem sum_amount_of_word {log : List Entry} (h : .released ∉ log.map Entry.letter) : (log.map Entry.amount).sum = 0 := by
  induction log with
  | nil => rfl
  | cons e log ih =>
    simp only [List.map_cons, List.mem_cons, not_or] at h
    rw [List.map_cons, List.sum_cons, Entry.amount_of_letter (Ne.symm h.1), ih h.2]
    rfl

/-- The words of the states before the first release contain none. -/
theorem released_not_mem_of_shape {s : PrincipalState} {w : List Letter}
    (hs : s ∈ [PrincipalState.awaitUnderwriting, .underwriting, .releasable, .rejected]) (h : Shape s w) : .released ∉ w := by
  simp only [List.mem_cons, List.not_mem_nil, or_false] at hs
  rcases hs with rfl | rfl | rfl | rfl
  · have hw : w = [.opened] := h
    simp [hw]
  · have hw : w = [.opened, .started] := h
    simp [hw]
  · have hw : w = underwritten := h
    simp [hw, underwritten]
  · have hw : w = [.opened, .started, .decided false] := h
    simp [hw]

/-- Nothing is released before the first draw, nor after a failed underwriting. -/
theorem Derives.released_zero {log : List Entry} {a : Account} (h : Derives log a)
    (hs : a.state ∈ [PrincipalState.awaitUnderwriting, .underwriting, .releasable, .rejected]) : a.releasedAtomic = 0 := by
  rw [h.released]
  exact sum_amount_of_word (released_not_mem_of_shape hs (run_iff_shape.mp h.word))

/-- The amounts of the releases, read off the events of either language, add up to those of the entries. -/
theorem sum_filterMap_amount {ε : Type} {entry : ε → Entry} {amount : ε → Option Int}
    (hamount : ∀ e, (entry e).amount = (amount e).getD 0) (log : List ε) :
    (log.filterMap amount).sum = ((log.map entry).map Entry.amount).sum := by
  induction log with
  | nil => rfl
  | cons e log ih =>
    rw [List.map_cons, List.map_cons, List.sum_cons, ← ih, hamount]
    cases ha : amount e with
    | none => rw [List.filterMap_cons_none ha, Option.getD_none, Int.zero_add]
    | some a => rw [List.filterMap_cons_some ha, Option.getD_some, List.sum_cons]

/-- A replayed job, field by field, whatever the language. -/
theorem RefinesTrack.closedForm {ε J χ : Type} {replay : List ε → Except χ J} {entry : ε → Entry} {account : J → Account}
    {reason : χ → Reason} (href : RefinesTrack replay entry account reason) {log : List ε} {job : J}
    (h : replay log = .ok job) :
    (∃ e rest, log = e :: rest ∧ (entry e).jobId = (account job).jobId ∧
        (entry e).move = .opened (account job).agent (account job).requestor (account job).exposureAtomic) ∧
      (account job).releasedAtomic = ((log.map entry).map Entry.amount).sum ∧
      ((account job).state ∈ [PrincipalState.awaitUnderwriting, .underwriting, .releasable, .rejected] →
        (account job).releasedAtomic = 0) ∧
      ∃ e, log.getLast? = some e ∧ (account job).lastEventAt = (entry e).atTime :=
  ⟨href.opened h, (href.derives h).released, (href.derives h).released_zero, href.last h⟩

/-! ## `state.py` -/

namespace Python

/-- The amounts of the releases of a log. -/
def releases (log : List ArsEvent) : List Int :=
  log.filterMap fun
    | .principalReleased e => some e.amountAtomic
    | _ => none

/-- The job, field by field, as a function of the log. -/
structure ClosedForm (log : List ArsEvent) (job : Job) : Prop where
  opened : ∃ e rest, log = .jobOpened e :: rest ∧ job.jobId = e.jobId ∧ job.agent = e.agent ∧
    job.requestor = e.requestor ∧ job.exposureAtomic = e.exposureAtomic
  released : job.releasedAtomic = (releases log).sum
  unreleased : job.state ∈ [PrincipalState.awaitUnderwriting, .underwriting, .releasable, .rejected] → job.releasedAtomic = 0
  last : ∃ e, log.getLast? = some e ∧ job.lastEventAt = e.atTime

/-- The same event but for the fields no transition reads: failure code, action hash, outcome, claim, resolution. -/
inductive SameButUnread : ArsEvent → ArsEvent → Prop
  | jobOpened (e) : SameButUnread (.jobOpened e) (.jobOpened e)
  | underwritingStarted (e) : SameButUnread (.underwritingStarted e) (.underwritingStarted e)
  | underwritingDecided (e) (failureCode) :
    SameButUnread (.underwritingDecided e) (.underwritingDecided { e with failureCode })
  | principalReleased (e) : SameButUnread (.principalReleased e) (.principalReleased e)
  | evidenceSubmitted (e) (actionHash outcome) :
    SameButUnread (.evidenceSubmitted e) (.evidenceSubmitted { e with actionHash, outcome })
  | disputed (e) (claim) : SameButUnread (.disputed e) (.disputed { e with claim })
  | closed (e) (resolution) : SameButUnread (.closed e) (.closed { e with resolution })

theorem sum_releases (log : List ArsEvent) : (releases log).sum = ((log.map ArsEvent.entry).map Entry.amount).sum :=
  sum_filterMap_amount (by intro e; cases e <;> rfl) log

/-- The opening move is that of a `JobOpened` event. -/
theorem eq_jobOpened_of_move {e : ArsEvent} {agent requestor : String} {exposure : Int}
    (h : e.move = .opened agent requestor exposure) :
    ∃ o, e = .jobOpened o ∧ o.agent = agent ∧ o.requestor = requestor ∧ o.exposureAtomic = exposure := by
  cases e <;> simp [ArsEvent.move] at h
  exact ⟨_, rfl, h⟩

/-- An accepted log replays to its closed form. -/
theorem closedForm_of_replay {log : List ArsEvent} {job : Job} (h : replay log = .ok job) : ClosedForm log job := by
  obtain ⟨⟨e, rest, hlog, hid, hm⟩, hreleased, hunreleased, hlast⟩ := replay_refines.closedForm h
  obtain ⟨o, rfl, hagent, hreq, hexp⟩ := eq_jobOpened_of_move hm
  exact {
    opened := ⟨o, rest, hlog, hid.symm, hagent.symm, hreq.symm, hexp.symm⟩
    released := hreleased.trans (sum_releases log).symm
    unreleased := hunreleased
    last := hlast }

/-- `applyEvent` reads none of the fields in which such events differ. -/
theorem applyEvent_unread (job : Option Job) {e e' : ArsEvent} (h : SameButUnread e e') :
    applyEvent job e = applyEvent job e' := by
  cases h <;> rfl

/-- Neither does `replay`. -/
theorem replay_unread {log log' : List ArsEvent} (h : List.Forall₂ SameButUnread log log') : replay log = replay log' := by
  simp only [replay_eq, Machine.replay, machine.run_congr (fun s _ _ => applyEvent_unread s) h]

end Python

/-! ## `state.ts` -/

namespace TypeScript

/-- The amounts of the releases of a log. -/
def releases (log : List ArsEvent) : List Int :=
  log.filterMap fun
    | .principalReleased e => some e.amountAtomic
    | _ => none

/-- The job, field by field, as a function of the log. -/
structure ClosedForm (log : List ArsEvent) (job : Job) : Prop where
  opened : ∃ e rest, log = .jobOpened e :: rest ∧ job.jobId = e.jobId ∧ job.agent = e.agent ∧
    job.requestor = e.requestor ∧ job.exposureAtomic = e.exposureAtomic
  released : job.releasedAtomic = (releases log).sum
  unreleased : job.state ∈ [PrincipalState.awaitUnderwriting, .underwriting, .releasable, .rejected] → job.releasedAtomic = 0
  last : ∃ e, log.getLast? = some e ∧ job.lastEventAt = e.atTime

/-- The same event but for the fields no transition reads: failure code, action hash, outcome, claim, resolution. -/
inductive SameButUnread : ArsEvent → ArsEvent → Prop
  | jobOpened (e) : SameButUnread (.jobOpened e) (.jobOpened e)
  | underwritingStarted (e) : SameButUnread (.underwritingStarted e) (.underwritingStarted e)
  | underwritingDecided (e) (failureCode) :
    SameButUnread (.underwritingDecided e) (.underwritingDecided { e with failureCode })
  | principalReleased (e) : SameButUnread (.principalReleased e) (.principalReleased e)
  | evidenceSubmitted (e) (actionHash outcome) :
    SameButUnread (.evidenceSubmitted e) (.evidenceSubmitted { e with actionHash, outcome })
  | disputed (e) (claim) : SameButUnread (.disputed e) (.disputed { e with claim })
  | closed (e) (resolution) : SameButUnread (.closed e) (.closed { e with resolution })

theorem sum_releases (log : List ArsEvent) : (releases log).sum = ((log.map ArsEvent.entry).map Entry.amount).sum :=
  sum_filterMap_amount (by intro e; cases e <;> rfl) log

/-- The opening move is that of a `JobOpened` event. -/
theorem eq_jobOpened_of_move {e : ArsEvent} {agent requestor : String} {exposure : Int}
    (h : e.move = .opened agent requestor exposure) :
    ∃ o, e = .jobOpened o ∧ o.agent = agent ∧ o.requestor = requestor ∧ o.exposureAtomic = exposure := by
  cases e <;> simp [ArsEvent.move] at h
  exact ⟨_, rfl, h⟩

/-- An accepted log replays to its closed form. -/
theorem closedForm_of_replay {log : List ArsEvent} {job : Job} (h : replay log = .ok job) : ClosedForm log job := by
  obtain ⟨⟨e, rest, hlog, hid, hm⟩, hreleased, hunreleased, hlast⟩ := replay_refines.closedForm h
  obtain ⟨o, rfl, hagent, hreq, hexp⟩ := eq_jobOpened_of_move hm
  exact {
    opened := ⟨o, rest, hlog, hid.symm, hagent.symm, hreq.symm, hexp.symm⟩
    released := hreleased.trans (sum_releases log).symm
    unreleased := hunreleased
    last := hlast }

/-- `applyEvent` reads none of the fields in which such events differ. -/
theorem applyEvent_unread (job : Option Job) {e e' : ArsEvent} (h : SameButUnread e e') :
    applyEvent job e = applyEvent job e' := by
  cases h <;> rfl

/-- Neither does `replay`. -/
theorem replay_unread {log log' : List ArsEvent} (h : List.Forall₂ SameButUnread log log') : replay log = replay log' := by
  simp only [replay_eq, Machine.replay, machine.run_congr (fun s _ _ => applyEvent_unread s) h]

end TypeScript

/-- In both languages an accepted log replays to its closed form, and no other field of any event influences the outcome. -/
theorem replay_closed_form :
    (∀ log job, Python.replay log = .ok job → Python.ClosedForm log job) ∧
      (∀ log log', List.Forall₂ Python.SameButUnread log log' → Python.replay log = Python.replay log') ∧
      (∀ log job, TypeScript.replay log = .ok job → TypeScript.ClosedForm log job) ∧
      ∀ log log', List.Forall₂ TypeScript.SameButUnread log log' → TypeScript.replay log = TypeScript.replay log' :=
  ⟨fun _ _ => Python.closedForm_of_replay, fun _ _ => Python.replay_unread, fun _ _ => TypeScript.closedForm_of_replay,
    fun _ _ => TypeScript.replay_unread⟩

end ArsSolana
