import ArsSolana.Lifecycle

/-!
# The principal track, whatever the language

`track` is the specification both state machines are compared with: the lifecycle with its data. An `Entry` is what a log says
of one event, an `Account` what is known of a job. An entry has no field for what never reaches a job: failure codes, outcomes,
action hashes, claims and resolutions.
-/

namespace ArsSolana

open EventSourcing

/-- What an entry says, besides its job and its time. -/
inductive Move where
  | opened (agent requestor : String) (exposureAtomic : Int)
  | started
  | decided (passed : Bool)
  | released (amountAtomic : Int)
  | evidence
  | disputed
  | closed
  deriving DecidableEq, Repr

def Move.letter : Move → Letter
  | .opened .. => .opened
  | .started => .started
  | .decided passed => .decided passed
  | .released _ => .released
  | .evidence => .evidence
  | .disputed => .disputed
  | .closed => .closed

/-- The principal a move releases. -/
def Move.amount : Move → Int
  | .released amountAtomic => amountAtomic
  | _ => 0

structure Entry where
  jobId : String
  atTime : Int
  move : Move
  deriving DecidableEq, Repr

def Entry.letter (e : Entry) : Letter := e.move.letter

def Entry.amount (e : Entry) : Int := e.move.amount

structure Account where
  jobId : String
  agent : String
  requestor : String
  exposureAtomic : Int
  state : PrincipalState
  releasedAtomic : Int
  lastEventAt : Int
  deriving DecidableEq, Repr

/-- An open account after an allowed entry. -/
def Account.after (a : Account) (e : Entry) : Account :=
  { a with state := e.letter.state, releasedAtomic := a.releasedAtomic + e.amount, lastEventAt := e.atTime }

/-- The specification: who may be refused, for which reason and in which order, and what an accepted entry changes. -/
def track : Machine Account Entry Reason where
  step
    | none, e =>
      match e.move with
      | .opened agent requestor exposureAtomic =>
        .ok ⟨e.jobId, agent, requestor, exposureAtomic, .awaitUnderwriting, 0, e.atTime⟩
      | _ => .error .unknownJob
    | some a, e =>
      if e.letter = .opened then .error .jobExists
      else if a.jobId ≠ e.jobId then .error .jobIdMismatch
      else if a.state = .rejected ∨ a.state = .closed then .error .terminalJob
      else if some a.state ∈ e.letter.allowedIn then .ok (a.after e)
      else .error .notAllowed
  empty := .emptyLog

/-- No event is allowed in a terminal state. -/
theorem allowedIn_not_terminal {s : PrincipalState} {l : Letter} (h : some s ∈ l.allowedIn) :
    ¬(s = .rejected ∨ s = .closed) := by
  intro hterminal
  rcases hterminal with rfl | rfl <;> cases l <;> simp [Letter.allowedIn] at h

/-- An event that some state allows does not open a job. -/
theorem allowedIn_not_opened {s : PrincipalState} {l : Letter} (h : some s ∈ l.allowedIn) : l ≠ .opened := by
  intro hl
  subst hl
  cases Letter.mem_allowedIn.mp h

/-- The first entry is accepted exactly when it opens the job. -/
theorem track_none_iff {e : Entry} {a : Account} :
    track.step none e = .ok a ↔ ∃ agent requestor exposure, e.move = .opened agent requestor exposure ∧
      a = ⟨e.jobId, agent, requestor, exposure, .awaitUnderwriting, 0, e.atTime⟩ := by
  cases hm : e.move <;> simp [track, hm, eq_comm]

/-- A later entry is accepted exactly when it is of the same job and the state allows it. -/
theorem track_some_iff {a b : Account} {e : Entry} :
    track.step (some a) e = .ok b ↔ a.jobId = e.jobId ∧ some a.state ∈ e.letter.allowedIn ∧ b = a.after e := by
  by_cases hin : some a.state ∈ e.letter.allowedIn
  · by_cases hid : a.jobId = e.jobId
    · have hok : track.step (some a) e = .ok (a.after e) := by
        simp [track, allowedIn_not_opened hin, hid, allowedIn_not_terminal hin, hin]
      rw [hok]
      simp [hid, hin, eq_comm]
    · simp [track, allowedIn_not_opened hin, hid]
  · have hno : ∀ b, track.step (some a) e ≠ .ok b := by
      intro b
      simp only [track, hin, if_false]
      split_ifs <;> nofun
    simp [hno, hin]

/-- An accepted entry is a move of the lifecycle. -/
theorem track_step_lifecycle {o : Option Account} {e : Entry} {a : Account} (h : track.step o e = .ok a) :
    lifecycle.step (o.map (·.state)) e.letter = .ok a.state := by
  cases o with
  | none =>
    obtain ⟨_, _, _, hm, rfl⟩ := track_none_iff.mp h
    simp only [Entry.letter, hm]
    rfl
  | some a₀ =>
    obtain ⟨-, hin, rfl⟩ := track_some_iff.mp h
    exact lifecycle_step_iff.mpr ⟨hin, rfl⟩

/-! ## One branch of a transition function -/

section Branch

variable {J χ : Type} {account : J → Account} {reason : χ → Reason} {job : J} {e : Entry} {checked : Except χ J}

/-- What the checks before a branch do on a job: they refuse an event of another job, then any event on a terminal job, and
hand every other job to the branch. -/
structure ChecksJob (account : J → Account) (reason : χ → Reason) (job : J) (e : Entry) (checked : Except χ J) : Prop where
  mismatch : (account job).jobId ≠ e.jobId → ∃ x, checked = .error x ∧ reason x = .jobIdMismatch
  terminal : (account job).jobId = e.jobId → (account job).state ∈ [PrincipalState.rejected, .closed] →
    ∃ x, checked = .error x ∧ reason x = .terminalJob
  handed : (account job).jobId = e.jobId → (account job).state ∉ [PrincipalState.rejected, .closed] → checked = .ok job

/-- A branch behind the checks takes the step of the track, when it moves the job in the states that allow the event and
refuses the event in the others. -/
theorem ChecksJob.agree_of_branch (h : ChecksJob account reason job e checked) {allowed : Prop} [Decidable allowed]
    {f : J → Except χ J} {next : J} {x : χ} (hopen : e.letter ≠ .opened)
    (hallowed : some (account job).state ∈ e.letter.allowedIn ↔ allowed)
    (hbranch : f job = if allowed then .ok next else .error x)
    (hnext : account next = (account job).after e) (hx : reason x = .notAllowed) :
    Outcome.Agree (fun x r => reason x = r) (fun a b => b = account a) (checked >>= f)
      (track.step (some (account job)) e) := by
  by_cases hid : (account job).jobId = e.jobId
  · by_cases hterminal : (account job).state ∈ [PrincipalState.rejected, .closed]
    · obtain ⟨y, rfl, hy⟩ := h.terminal hid hterminal
      have hstep : track.step (some (account job)) e = .error .terminalJob := by
        simp_all [track]
      rw [hstep]
      exact .error hy
    · rw [h.handed hid hterminal, Outcome.ok_bind, hbranch]
      by_cases hin : allowed
      · have hstep : track.step (some (account job)) e = .ok ((account job).after e) :=
          track_some_iff.mpr ⟨hid, hallowed.mpr hin, rfl⟩
        rw [if_pos hin, hstep]
        exact .ok hnext.symm
      · have hstep : track.step (some (account job)) e = .error .notAllowed := by
          simp_all [track]
        rw [if_neg hin, hstep]
        exact .error hx
  · obtain ⟨y, rfl, hy⟩ := h.mismatch hid
    have hstep : track.step (some (account job)) e = .error .jobIdMismatch := by
      simp [track, hopen, hid]
    rw [hstep]
    exact .error hy

end Branch

/-! ## What an accepted log derives -/

/-- The account is the closed form of the log. -/
structure Derives (log : List Entry) (a : Account) : Prop where
  opened : ∃ e rest, log = e :: rest ∧ e.jobId = a.jobId ∧ e.move = .opened a.agent a.requestor a.exposureAtomic
  ids : ∀ e ∈ log, e.jobId = a.jobId
  released : a.releasedAtomic = (log.map Entry.amount).sum
  last : ∃ e, log.getLast? = some e ∧ a.lastEventAt = e.atTime
  word : lifecycle.run none (log.map Entry.letter) = .ok (some a.state)

/-- The account of an accepted first entry is the closed form of that entry. -/
theorem derives_first {e : Entry} {a : Account} (h : track.step none e = .ok a) : Derives [e] a := by
  have hl := track_step_lifecycle h
  obtain ⟨agent, requestor, exposure, hm, rfl⟩ := track_none_iff.mp h
  exact {
    opened := ⟨e, [], rfl, rfl, hm⟩
    ids := by simp
    released := by simp [Entry.amount, hm, Move.amount]
    last := ⟨e, rfl, rfl⟩
    word := by simpa [Machine.run] using lifecycle.run_cons_ok hl [] }

/-- One more accepted entry keeps the account the closed form of the log. -/
theorem derives_step {log : List Entry} {e : Entry} {a b : Account} (h : Derives log a)
    (hs : track.step (some a) e = .ok b) : Derives (log ++ [e]) b := by
  have hl := track_step_lifecycle hs
  obtain ⟨hid, hin, rfl⟩ := track_some_iff.mp hs
  obtain ⟨e₀, rest, rfl, hid₀, hm₀⟩ := h.opened
  exact {
    opened := ⟨e₀, rest ++ [e], rfl, hid₀, hm₀⟩
    ids := by
      intro x hx
      rcases List.mem_append.mp hx with hx | hx
      · exact h.ids x hx
      · rw [List.mem_singleton.mp hx]
        exact hid.symm
    released := by
      rw [List.map_append, List.sum_append, ← h.released]
      simp [Account.after]
    last := ⟨e, List.getLast?_concat, rfl⟩
    word := by
      rw [List.map_append]
      exact lifecycle.run_concat_iff.mpr ⟨_, _, h.word, hl, rfl⟩ }

/-- Replaying a log derives the closed form of the log. -/
theorem derives_of_run {log : List Entry} {a : Account} (h : track.run none log = .ok (some a)) : Derives log a := by
  have hinv := track.run_induction (P := fun log o => match o with | none => log = [] | some a => Derives log a)
    (i := none) rfl ?_ h
  · exact hinv
  · intro es o e b _ hP hs
    cases o with
    | none =>
      subst hP
      exact derives_first hs
    | some a => exact derives_step hP hs

/-- A log of one job whose word the lifecycle accepts is accepted. -/
theorem run_of_word {log : List Entry} {id : String} (hid : ∀ e ∈ log, e.jobId = id) {s : Option PrincipalState}
    (hw : lifecycle.run none (log.map Entry.letter) = .ok s) : ∃ o, track.run none log = .ok o ∧ o.map (·.state) = s := by
  induction log using List.reverseRecOn generalizing s with
  | nil =>
    cases hw
    exact ⟨none, rfl, rfl⟩
  | append_singleton log e ih =>
    rw [List.map_append, List.map_singleton] at hw
    obtain ⟨u, t, hu, ht, rfl⟩ := lifecycle.run_concat_iff.mp hw
    obtain ⟨o, ho, hou⟩ := ih (fun x hx => hid x (List.mem_append_left _ hx)) hu
    obtain ⟨hin, rfl⟩ := lifecycle_step_iff.mp ht
    have hstep : ∃ b, track.step o e = .ok b := by
      cases o with
      | none =>
        subst hou
        cases hm : e.move <;> simp [Entry.letter, hm, Move.letter, Letter.allowedIn] at hin
        exact ⟨_, track_none_iff.mpr ⟨_, _, _, hm, rfl⟩⟩
      | some a =>
        have ha := (derives_of_run ho).opened
        obtain ⟨e₀, rest, rfl, hid₀, -⟩ := ha
        have h₀ : e₀.jobId = id := hid e₀ (by simp)
        have he : e.jobId = id := hid e (by simp)
        refine ⟨_, track_some_iff.mpr ⟨?_, ?_, rfl⟩⟩
        · rw [← hid₀, h₀, he]
        · rw [← hou] at hin
          exact hin
    obtain ⟨b, hb⟩ := hstep
    refine ⟨some b, track.run_concat_iff.mpr ⟨_, _, ho, hb, rfl⟩, ?_⟩
    have hl := track_step_lifecycle hb
    rw [Option.map_some, (lifecycle_step_iff.mp hl).2]

/-- Which logs are accepted: those of one job whose word begins a complete lifecycle. -/
theorem track_accepts_iff {log : List Entry} :
    (∃ a, track.replay log = .ok a) ↔
      log ≠ [] ∧ (∃ id, ∀ e ∈ log, e.jobId = id) ∧ ∃ full, Complete full ∧ log.map Entry.letter <+: full := by
  constructor
  · intro hex
    obtain ⟨a, ha⟩ := hex
    have hd := derives_of_run (track.replay_ok_iff.mp ha)
    obtain ⟨hne, full, hfull, hpre⟩ := accepted_iff.mp ⟨_, hd.word⟩
    exact ⟨fun hl => hne (by rw [hl]; rfl), ⟨_, hd.ids⟩, full, hfull, hpre⟩
  · intro hlog
    obtain ⟨hne, ⟨id, hid⟩, full, hfull, hpre⟩ := hlog
    have hne' : log.map Entry.letter ≠ [] := by simpa using hne
    obtain ⟨s, hs⟩ := accepted_iff.mpr ⟨hne', full, hfull, hpre⟩
    obtain ⟨o, ho, hos⟩ := run_of_word hid hs
    cases o with
    | none => cases hos
    | some a => exact ⟨a, track.replay_ok_iff.mpr ho⟩

/-! ## State machines that refine the track -/

/-- A `replay` that agrees with the track on what the track sees of its events, jobs and errors. -/
def RefinesTrack {ε J χ : Type} (replay : List ε → Except χ J) (entry : ε → Entry) (account : J → Account)
    (reason : χ → Reason) : Prop :=
  ∀ log, Outcome.Agree (fun x r => reason x = r) (fun a b => b = account a) (replay log) (track.replay (log.map entry))

namespace RefinesTrack

variable {ε J χ : Type} {replay : List ε → Except χ J} {entry : ε → Entry} {account : J → Account} {reason : χ → Reason}

/-- The account of a replayed job is the one the track replays to. -/
theorem ok (href : RefinesTrack replay entry account reason) {log : List ε} {job : J} (h : replay log = .ok job) :
    track.replay (log.map entry) = .ok (account job) := by
  obtain ⟨b, hb, rfl⟩ := (href log).of_ok h
  exact hb

/-- The account of a replayed job is the closed form of the log. -/
theorem derives (href : RefinesTrack replay entry account reason) {log : List ε} {job : J} (h : replay log = .ok job) :
    Derives (log.map entry) (account job) :=
  derives_of_run (track.replay_ok_iff.mp (href.ok h))

/-- The first event of a replayed log opens the job. -/
theorem opened (href : RefinesTrack replay entry account reason) {log : List ε} {job : J} (h : replay log = .ok job) :
    ∃ e rest, log = e :: rest ∧ (entry e).jobId = (account job).jobId ∧
      (entry e).move = .opened (account job).agent (account job).requestor (account job).exposureAtomic := by
  obtain ⟨e, rest, hlog, hid, hm⟩ := (href.derives h).opened
  obtain ⟨e, rest, rfl, rfl, -⟩ := List.map_eq_cons_iff.mp hlog
  exact ⟨e, rest, rfl, hid, hm⟩

/-- The last event of a replayed log gives the job its time. -/
theorem last (href : RefinesTrack replay entry account reason) {log : List ε} {job : J} (h : replay log = .ok job) :
    ∃ e, log.getLast? = some e ∧ (account job).lastEventAt = (entry e).atTime := by
  obtain ⟨e, hlast, hat⟩ := (href.derives h).last
  rw [List.getLast?_map] at hlast
  obtain ⟨e, he, rfl⟩ := Option.map_eq_some_iff.mp hlast
  exact ⟨e, he, hat⟩

end RefinesTrack

end ArsSolana
