import ArsSolana.Lemmas.PythonTrack
import ArsSolana.Lemmas.TypeScriptTrack

/-!
# The resolution a job is closed with

`events.ts` says what each resolution means: the dispute window expired clean, or a claim was resolved against or for the agent.
Neither transition function looks at the resolution, so a log may contradict itself. A closing is consistent exactly when its
resolution fits the event it follows.
-/

namespace ArsSolana

open EventSourcing EventSourcing.Machine

/-- The resolution fits the event before the closing: clean after the evidence, of a claim after a dispute. -/
def Resolution.Fits (resolution : Resolution) (last : Letter) : Prop :=
  (last = .evidence ∧ resolution = .noDispute) ∨ (last = .disputed ∧ resolution ≠ .noDispute)

/-- The resolution agrees with a dispute history: it is clean exactly when nothing was disputed, and a resolved claim exactly
when something was. -/
def Resolution.AgreesWith (resolution : Resolution) (disputed : Prop) : Prop :=
  (resolution = .noDispute ↔ ¬disputed) ∧ (resolution = .disputeUpheld ∨ resolution = .disputeRejected ↔ disputed)

/-- A resolution is clean or of a claim, so one half of the agreement decides the other. -/
theorem Resolution.agreesWith_iff {resolution : Resolution} {disputed : Prop} :
    resolution.AgreesWith disputed ↔ (resolution ≠ .noDispute ↔ disputed) := by
  unfold AgreesWith
  cases resolution <;> simp

/-! ## The track -/

/-- A closing follows the evidence or a dispute, and a dispute anywhere before it is the event right before it. -/
theorem last_before_closed {w : List Letter} {s : Option PrincipalState}
    (h : lifecycle.run none (w ++ [.closed]) = .ok s) :
    ∃ l, w.getLast? = some l ∧ (l = .evidence ∨ l = .disputed) ∧ (.disputed ∈ w ↔ l = .disputed) := by
  obtain ⟨u, hu, hin, -⟩ := run_before h
  rcases Letter.mem_allowedIn.mp hin with rfl | rfl
  · obtain ⟨n, rfl⟩ := run_iff_shape.mp hu
    exact ⟨.evidence, List.getLast?_concat, Or.inl rfl, by simp [drawn, underwritten]⟩
  · obtain ⟨n, rfl⟩ := run_iff_shape.mp hu
    exact ⟨.disputed, by simp, Or.inr rfl, by simp⟩

/-- A closing agrees with its history exactly when its resolution fits the event it follows, on the side of a state machine that
refines the track. -/
theorem agreesWith_iff_of_refines {ε J χ : Type} {replay : List ε → Except χ J} {entry : ε → Entry} {account : J → Account}
    {reason : χ → Reason} (href : RefinesTrack replay entry account reason) {log : List ε} {e : ε} {job : J}
    (he : (entry e).letter = .closed) (h : replay (log ++ [e]) = .ok job) (resolution : Resolution) :
    resolution.AgreesWith (∃ d ∈ log, (entry d).letter = .disputed) ↔
      ∃ last, log.getLast? = some last ∧ resolution.Fits (entry last).letter := by
  have hword := (href.derives h).word
  rw [List.map_append, List.map_append, List.map_singleton, List.map_singleton, he] at hword
  obtain ⟨l, hl, hbefore, hmem⟩ := last_before_closed hword
  rw [List.getLast?_map, List.getLast?_map] at hl
  obtain ⟨last, hlast, rfl⟩ : ∃ last, log.getLast? = some last ∧ (entry last).letter = l := by simpa using hl
  have hdisputed : (∃ d ∈ log, (entry d).letter = .disputed) ↔ (entry last).letter = .disputed := by simpa using hmem
  rw [Resolution.agreesWith_iff, hdisputed]
  constructor
  · intro hiff
    refine ⟨last, hlast, ?_⟩
    rcases hbefore with hl | hl
    · exact Or.inl ⟨hl, by simpa [hl] using hiff⟩
    · exact Or.inr ⟨hl, hiff.mpr hl⟩
  · intro hex
    obtain ⟨last', hlast', hfits⟩ := hex
    obtain rfl := Option.some.inj (hlast.symm.trans hlast')
    rcases hfits with ⟨hl, hr⟩ | ⟨hl, hr⟩
    · simp [hl, hr]
    · simp [hl, hr]

/-! ## The two languages -/

/-- A claim was filed in the log. -/
def Python.HasDispute (log : List Python.ArsEvent) : Prop := ∃ d : Python.Disputed, .disputed d ∈ log

/-- A claim was filed in the log. -/
def TypeScript.HasDispute (log : List TypeScript.ArsEvent) : Prop := ∃ d : TypeScript.Disputed, .disputed d ∈ log

/-- An event of one kind is in a log exactly when an event of its letter is. -/
theorem exists_kind_iff {ε δ : Type} {kind : δ → ε} {entry : ε → Entry} {l : Letter}
    (hkind : ∀ e, (entry e).letter = l ↔ ∃ d, e = kind d) (log : List ε) :
    (∃ d, kind d ∈ log) ↔ ∃ e ∈ log, (entry e).letter = l := by
  constructor
  · rintro ⟨d, hd⟩
    exact ⟨kind d, hd, (hkind _).mpr ⟨d, rfl⟩⟩
  · rintro ⟨e, he, hl⟩
    obtain ⟨d, rfl⟩ := (hkind e).mp hl
    exact ⟨d, he⟩

/-- A claim was filed exactly when the log has the letter of a dispute. -/
theorem Python.hasDispute_iff {log : List Python.ArsEvent} :
    Python.HasDispute log ↔ ∃ d ∈ log, d.entry.letter = .disputed :=
  exists_kind_iff (by intro e; cases e <;> simp [ArsEvent.letter, ArsEvent.move, Move.letter]) log

/-- The same of a log of events of `events.ts`. -/
theorem TypeScript.hasDispute_iff {log : List TypeScript.ArsEvent} :
    TypeScript.HasDispute log ↔ ∃ d ∈ log, d.entry.letter = .disputed :=
  exists_kind_iff (by intro e; cases e <;> simp [ArsEvent.letter, ArsEvent.move, Move.letter]) log

/-- In every accepted log that ends in a closing, the resolution agrees with the dispute history exactly when it fits the event
before the closing: `no_dispute` after an `EvidenceSubmitted`, a resolved claim after a `Disputed`. -/
theorem resolution_agrees_iff (log : List Python.ArsEvent) (c : Python.Closed) (log' : List TypeScript.ArsEvent)
    (c' : TypeScript.Closed) :
    (∀ job, Python.replay (log ++ [.closed c]) = .ok job →
      (c.resolution.AgreesWith (Python.HasDispute log) ↔
        ∃ last, log.getLast? = some last ∧ c.resolution.Fits last.letter)) ∧
    ∀ job, TypeScript.replay (log' ++ [.closed c']) = .ok job →
      (c'.resolution.AgreesWith (TypeScript.HasDispute log') ↔
        ∃ last, log'.getLast? = some last ∧ c'.resolution.Fits last.letter) := by
  constructor
  · intro job h
    rw [Python.hasDispute_iff]
    exact agreesWith_iff_of_refines Python.replay_refines rfl h c.resolution
  · intro job h
    rw [TypeScript.hasDispute_iff]
    exact agreesWith_iff_of_refines TypeScript.replay_refines rfl h c'.resolution

namespace DisputeExample

/-- A job up to its evidence. -/
def evidenced : List Python.ArsEvent :=
  [.jobOpened ⟨"j", 1, "agent", "requestor", 500⟩, .underwritingStarted ⟨"j", 2⟩, .underwritingDecided ⟨"j", 3, true, none⟩,
    .principalReleased ⟨"j", 4, 500⟩, .evidenceSubmitted ⟨"j", 5, "hash", .success⟩]

/-- The same job in the other language. -/
def evidencedTs : List TypeScript.ArsEvent :=
  [.jobOpened ⟨⟨"j", 1⟩, "agent", "requestor", 500⟩, .underwritingStarted ⟨⟨"j", 2⟩⟩,
    .underwritingDecided ⟨⟨"j", 3⟩, true, none⟩, .principalReleased ⟨⟨"j", 4⟩, 500⟩,
    .evidenceSubmitted ⟨⟨"j", 5⟩, "hash", .success⟩]

end DisputeExample

open DisputeExample in
/-- A job whose claim was dismissed agrees with its history. -/
theorem resolution_agrees_dismissed :
    Resolution.disputeRejected.AgreesWith (Python.HasDispute (evidenced ++ [.disputed ⟨"j", 6, "claim"⟩])) ∧
      Resolution.disputeRejected.AgreesWith (TypeScript.HasDispute (evidencedTs ++ [.disputed ⟨⟨"j", 6⟩, "claim"⟩])) :=
  let hiff := resolution_agrees_iff (evidenced ++ [.disputed ⟨"j", 6, "claim"⟩]) ⟨"j", 7, .disputeRejected⟩
    (evidencedTs ++ [.disputed ⟨⟨"j", 6⟩, "claim"⟩]) ⟨⟨"j", 7⟩, .disputeRejected⟩
  ⟨(hiff.1 ⟨"j", "agent", "requestor", 500, .closed, 500, 7⟩ (by decide)).mpr
      ⟨_, rfl, Or.inr ⟨rfl, by decide⟩⟩,
    (hiff.2 ⟨"j", "agent", "requestor", 500, .closed, 500, 7⟩ (by decide)).mpr
      ⟨_, rfl, Or.inr ⟨rfl, by decide⟩⟩⟩

open DisputeExample in
/-- Both languages close an undisputed job as slashed, and a disputed one as clean. -/
theorem resolution_disagrees :
    ((∃ job, Python.replay (evidenced ++ [.closed ⟨"j", 6, .disputeUpheld⟩]) = .ok job) ∧
        ¬Resolution.disputeUpheld.AgreesWith (Python.HasDispute evidenced)) ∧
      ((∃ job, TypeScript.replay (evidencedTs ++ [.disputed ⟨⟨"j", 6⟩, "claim"⟩] ++ [.closed ⟨⟨"j", 7⟩, .noDispute⟩]) =
          .ok job) ∧
        ¬Resolution.noDispute.AgreesWith (TypeScript.HasDispute (evidencedTs ++ [.disputed ⟨⟨"j", 6⟩, "claim"⟩]))) := by
  refine ⟨⟨⟨⟨"j", "agent", "requestor", 500, .closed, 500, 6⟩, by decide⟩, ?_⟩,
    ⟨⟨"j", "agent", "requestor", 500, .closed, 500, 7⟩, by decide⟩, ?_⟩
  · rw [Resolution.agreesWith_iff, Python.hasDispute_iff]
    intro h
    obtain ⟨d, hd, hl⟩ := h.mp (by decide)
    revert hl
    revert d
    decide
  · rw [Resolution.agreesWith_iff]
    intro h
    exact h.mpr ⟨⟨⟨"j", 6⟩, "claim"⟩, by simp⟩ rfl

end ArsSolana
