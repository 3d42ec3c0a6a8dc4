import ArsSolana.Lemmas.PythonTrack
import ArsSolana.Lemmas.TypeScriptTrack
import ArsSolana.Library.Ranked

/-!
# The order of delivery

Every kind of event but a release occurs at most once in an accepted log, at a place forced by its kind. Two accepted logs with
the same events therefore differ in the order of the releases only, and lead to the same job, but for the time of a job whose last
event is a release.
-/

namespace ArsSolana

open EventSourcing Ranked

/-! ## Words -/

/-- How far in its lifecycle a job is. -/
def PrincipalState.rank : PrincipalState → Nat
  | awaitUnderwriting => 0
  | underwriting => 1
  | rejected | releasable => 2
  | executing => 3
  | evidenceSubmitted => 4
  | disputed => 5
  | closed => 6

def Letter.rank (l : Letter) : Nat := l.state.rank

theorem Letter.rank_eq_three_iff {l : Letter} : l.rank = 3 ↔ l = .released := by
  cases l with
  | decided passed => cases passed <;> simp [Letter.rank, Letter.state, PrincipalState.rank]
  | _ => simp [Letter.rank, Letter.state, PrincipalState.rank]

/-- An allowed event takes the job further, or is one more release. -/
theorem rank_of_allowed {s : PrincipalState} {l : Letter} (h : some s ∈ l.allowedIn) :
    s.rank < l.rank ∨ s.rank = 3 ∧ l.rank = 3 := by
  have hallowed := Letter.mem_allowedIn.mp h
  cases l with
  | opened => cases hallowed
  | decided passed =>
    cases hallowed
    cases passed <;> exact Or.inl (by decide)
  | released =>
    rcases hallowed with hs | hs <;> cases hs
    · exact Or.inl (by decide)
    · exact Or.inr ⟨rfl, rfl⟩
  | closed => rcases hallowed with hs | hs <;> cases hs <;> exact Or.inl (by decide)
  | _ =>
    cases hallowed
    exact Or.inl (by decide)

/-- The letters of an accepted word stand in the order of their ranks, none of them past the state reached. -/
theorem ordered_of_run {w : List Letter} {s : Option PrincipalState} (h : lifecycle.run none w = .ok s) :
    Ordered Letter.rank 3 w ∧ ∀ l ∈ w, ∃ t, s = some t ∧ l.rank ≤ t.rank := by
  refine lifecycle.run_induction (P := fun w s => Ordered Letter.rank 3 w ∧ ∀ l ∈ w, ∃ t, s = some t ∧ l.rank ≤ t.rank)
    ⟨List.Pairwise.nil, by simp⟩ ?_ h
  rintro w s l t - ⟨hordered, hreached⟩ hstep
  obtain ⟨hin, rfl⟩ := lifecycle_step_iff.mp hstep
  have hnext : ∀ l' ∈ w, l'.rank < l.rank ∨ l'.rank = 3 ∧ l.rank = 3 := by
    intro l' hl'
    obtain ⟨t, rfl, hle⟩ := hreached l' hl'
    have hrank := rank_of_allowed hin
    omega
  refine ⟨?_, ?_⟩
  · refine List.pairwise_append.mpr ⟨hordered, List.pairwise_singleton _ _, ?_⟩
    intro l' hl' l'' hl''
    rw [List.mem_singleton.mp hl'']
    exact hnext l' hl'
  · intro l' hl'
    refine ⟨l.state, rfl, ?_⟩
    rcases List.mem_append.mp hl' with hl' | hl'
    · have hrank := hnext l' hl'
      show l'.rank ≤ l.rank
      omega
    · rw [List.mem_singleton.mp hl']
      exact Nat.le_refl _

/-! ## Logs -/

/-- Two logs differ in the order of the events of one kind only, which stand together. -/
def ReorderedOnly {ε : Type} (kind : ε → Prop) (log log' : List ε) : Prop :=
  ∃ before mid mid' after, log = before ++ mid ++ after ∧ log' = before ++ mid' ++ after ∧ mid.Perm mid' ∧ ∀ e ∈ mid, kind e

namespace RefinesTrack

variable {ε J χ : Type} {replay : List ε → Except χ J} {entry : ε → Entry} {account : J → Account} {reason : χ → Reason}

/-- Two replayed logs with the same events differ in the order of their releases only, which come after the opening event. -/
theorem reorder (href : RefinesTrack replay entry account reason) {log log' : List ε} {job job' : J} (hperm : log.Perm log')
    (h : replay log = .ok job) (h' : replay log' = .ok job') :
    ∃ before mid mid' after, log = before ++ mid ++ after ∧ log' = before ++ mid' ++ after ∧ mid.Perm mid' ∧ before ≠ [] ∧
      ∀ e ∈ mid, (entry e).letter = .released := by
  have hordered : ∀ {log : List ε} {job : J}, replay log = .ok job → Ordered (fun e => (entry e).letter.rank) 3 log := by
    intro log job h
    have hword := (ordered_of_run (href.derives h).word).1
    unfold Ordered at hword ⊢
    rwa [List.map_map, List.pairwise_map] at hword
  obtain ⟨before, mid, mid', after, hlog, hlog', hmid, -, hreleases, hafter⟩ := (hordered h).reorder (hordered h') hperm
  refine ⟨before, mid, mid', after, hlog, hlog', hmid, ?_, fun e he => Letter.rank_eq_three_iff.mp (hreleases e he)⟩
  rintro rfl
  obtain ⟨e, rest, he, -, hopened⟩ := href.opened h
  have hmem : e ∈ mid ++ after := by
    rw [← List.nil_append mid, ← hlog, he]
    exact List.mem_cons_self
  have hrank : (entry e).letter.rank = 0 := by
    rw [Entry.letter, hopened]
    rfl
  rcases List.mem_append.mp hmem with hmem | hmem
  · have hthree := hreleases e hmem
    omega
  · have hpast := hafter e hmem
    omega

/-- The words of the two logs are the same. -/
theorem letters_eq {before mid mid' after : List ε} (hmid : mid.Perm mid')
    (hreleases : ∀ e ∈ mid, (entry e).letter = .released) :
    ((before ++ mid ++ after).map entry).map Entry.letter = ((before ++ mid' ++ after).map entry).map Entry.letter := by
  have hword : ∀ {es : List ε}, (∀ e ∈ es, (entry e).letter = .released) →
      (es.map entry).map Entry.letter = List.replicate es.length .released := by
    intro es hes
    rw [List.eq_replicate_iff]
    refine ⟨by simp, ?_⟩
    intro l hl
    obtain ⟨x, hx, rfl⟩ := List.mem_map.mp hl
    obtain ⟨e, he, rfl⟩ := List.mem_map.mp hx
    exact hes e he
  simp only [List.map_append]
  rw [hword hreleases, hword (fun e he => hreleases e (hmid.mem_iff.mpr he)), hmid.length_eq]

/-- An accepted log that ends with a release leaves the job executing. -/
theorem executing_of_last (href : RefinesTrack replay entry account reason) {log : List ε} {job : J} {e : ε}
    (h : replay log = .ok job) (hlast : log.getLast? = some e) (hrelease : (entry e).letter = .released) :
    (account job).state = .executing := by
  obtain ⟨log, rfl⟩ := List.getLast?_eq_some_iff.mp hlast
  have hword := (href.derives h).word
  rw [List.map_append, List.map_append] at hword
  have hstate := run_last hword
  rw [hstate, hrelease]
  rfl

/-- Two replayed logs with the same events lead to the same job, but for the time of a job that is executing. -/
theorem agree_of_perm (href : RefinesTrack replay entry account reason) {log log' : List ε} {job job' : J}
    (hperm : log.Perm log') (h : replay log = .ok job) (h' : replay log' = .ok job') :
    account job' = { account job with lastEventAt := (account job').lastEventAt } ∧
      ((account job).state ≠ .executing → (account job).lastEventAt = (account job').lastEventAt) := by
  obtain ⟨before, mid, mid', after, rfl, rfl, hmid, hne, hreleases⟩ := href.reorder hperm h h'
  have hd := href.derives h
  have hd' := href.derives h'
  have hopened : (account job').jobId = (account job).jobId ∧ (account job').agent = (account job).agent ∧
      (account job').requestor = (account job).requestor ∧
      (account job').exposureAtomic = (account job).exposureAtomic := by
    obtain ⟨e, rest, he, hid, hmove⟩ := href.opened h
    obtain ⟨e', rest', he', hid', hmove'⟩ := href.opened h'
    obtain ⟨first, before, rfl⟩ := List.exists_cons_of_ne_nil hne
    obtain rfl := (List.cons.inj he).1
    obtain rfl := (List.cons.inj he').1
    rw [hmove] at hmove'
    injection hmove' with hagent hrequestor hexposure
    exact ⟨hid'.symm.trans hid, hagent.symm, hrequestor.symm, hexposure.symm⟩
  have hreleased : (account job').releasedAtomic = (account job).releasedAtomic := by
    rw [hd.released, hd'.released]
    exact ((hperm.map entry).map Entry.amount).sum_eq.symm
  have hstate : (account job').state = (account job).state := by
    have hword := hd.word
    rw [letters_eq hmid hreleases, hd'.word] at hword
    exact Option.some.inj (Except.ok.inj hword)
  refine ⟨?_, ?_⟩
  · obtain ⟨hid, hagent, hrequestor, hexposure⟩ := hopened
    dsimp only
    rw [← hid, ← hagent, ← hrequestor, ← hexposure, ← hreleased, ← hstate]
  · intro hexecuting
    obtain ⟨e, hlast, hat⟩ := href.last h
    obtain ⟨e', hlast', hat'⟩ := href.last h'
    have hsame : e = e' := by
      rcases List.eq_nil_or_concat' after with rfl | ⟨after, x, rfl⟩
      · rcases List.eq_nil_or_concat' mid with rfl | ⟨mid, x, rfl⟩
        · rw [hmid.symm.eq_nil] at hlast'
          rw [hlast] at hlast'
          exact Option.some.inj hlast'
        · -- the last event is a release, after which the job is executing
          refine absurd (href.executing_of_last h hlast (hreleases e ?_)) hexecuting
          rw [List.append_nil, ← List.append_assoc, List.getLast?_concat] at hlast
          obtain rfl := Option.some.inj hlast
          exact List.mem_append_right _ (List.mem_singleton_self _)
      · rw [← List.append_assoc, List.getLast?_concat] at hlast hlast'
        exact (Option.some.inj hlast).symm.trans (Option.some.inj hlast')
    rw [hat, hat', hsame]

/-- What two replayed logs with the same events have in common, the releases being the events of one kind. -/
theorem delivery (href : RefinesTrack replay entry account reason) {kind : ε → Prop}
    (hkind : ∀ e, (entry e).letter = .released → kind e) {log log' : List ε} {job job' : J} (hperm : log.Perm log')
    (h : replay log = .ok job) (h' : replay log' = .ok job') :
    ((account job).jobId = (account job').jobId ∧ (account job).agent = (account job').agent ∧
        (account job).requestor = (account job').requestor ∧
        (account job).exposureAtomic = (account job').exposureAtomic ∧ (account job).state = (account job').state ∧
        (account job).releasedAtomic = (account job').releasedAtomic) ∧
      ((account job).state ≠ .executing → (account job).lastEventAt = (account job').lastEventAt) ∧
      ReorderedOnly kind log log' := by
  obtain ⟨hsame, hlast⟩ := href.agree_of_perm hperm h h'
  obtain ⟨before, mid, mid', after, hlog, hlog', hmid, -, hreleases⟩ := href.reorder hperm h h'
  refine ⟨?_, hlast, before, mid, mid', after, hlog, hlog', hmid, fun e he => hkind e (hreleases e he)⟩
  rw [hsame]
  exact ⟨rfl, rfl, rfl, rfl, rfl, rfl⟩

end RefinesTrack

/-! ## Both languages -/

/-- Only a `PrincipalReleased` event releases. -/
theorem Python.eq_principalReleased (e : Python.ArsEvent) (h : e.entry.letter = .released) :
    ∃ r, e = .principalReleased r := by
  cases e <;> first | exact ⟨_, rfl⟩ | cases h

/-- The same of `events.ts`. -/
theorem TypeScript.eq_principalReleased (e : TypeScript.ArsEvent) (h : e.entry.letter = .released) :
    ∃ r, e = .principalReleased r := by
  cases e <;> first | exact ⟨_, rfl⟩ | cases h

/-- Two accepted logs with the same events lead to the same job, but for the time of a job that is executing, and differ in the
order of their releases only; in `state.py` and in `state.ts`. -/
theorem delivery_order_irrelevant :
    (∀ (log log' : List Python.ArsEvent) (job job' : Python.Job), log.Perm log' → Python.replay log = .ok job →
      Python.replay log' = .ok job' →
      (job.jobId = job'.jobId ∧ job.agent = job'.agent ∧ job.requestor = job'.requestor ∧
        job.exposureAtomic = job'.exposureAtomic ∧ job.state = job'.state ∧ job.releasedAtomic = job'.releasedAtomic) ∧
      (job.state ≠ .executing → job.lastEventAt = job'.lastEventAt) ∧
      ReorderedOnly (fun e => ∃ r, e = Python.ArsEvent.principalReleased r) log log') ∧
    ∀ (log log' : List TypeScript.ArsEvent) (job job' : TypeScript.Job), log.Perm log' → TypeScript.replay log = .ok job →
      TypeScript.replay log' = .ok job' →
      (job.jobId = job'.jobId ∧ job.agent = job'.agent ∧ job.requestor = job'.requestor ∧
        job.exposureAtomic = job'.exposureAtomic ∧ job.state = job'.state ∧ job.releasedAtomic = job'.releasedAtomic) ∧
      (job.state ≠ .executing → job.lastEventAt = job'.lastEventAt) ∧
      ReorderedOnly (fun e => ∃ r, e = TypeScript.ArsEvent.principalReleased r) log log' := by
  constructor
  · intro log log' job job' hperm h h'
    exact Python.replay_refines.delivery Python.eq_principalReleased hperm h h'
  · intro log log' job job' hperm h h'
    exact TypeScript.replay_refines.delivery TypeScript.eq_principalReleased hperm h h'

namespace DeliveryExample

def drawing : List Python.ArsEvent :=
  [.jobOpened ⟨"j", 1, "agent", "requestor", 10⟩, .underwritingStarted ⟨"j", 2⟩, .underwritingDecided ⟨"j", 3, true, none⟩]

def first : Python.ArsEvent := .principalReleased ⟨"j", 4, 3⟩

def second : Python.ArsEvent := .principalReleased ⟨"j", 5, 4⟩

/-- Two draws in either order: the job differs in its time only. -/
theorem draws_swapped :
    Python.replay (drawing ++ [first, second]) = .ok ⟨"j", "agent", "requestor", 10, .executing, 7, 5⟩ ∧
      ∃ job, Python.replay (drawing ++ [second, first]) = .ok job ∧ job.state = .executing ∧ job.releasedAtomic = 7 ∧
        job.lastEventAt = 4 := by
  have hin : Python.replay (drawing ++ [first, second]) = .ok ⟨"j", "agent", "requestor", 10, .executing, 7, 5⟩ := rfl
  have hout : ∃ job, Python.replay (drawing ++ [second, first]) = .ok job ∧ job.lastEventAt = 4 := ⟨_, rfl, rfl⟩
  obtain ⟨job, hjob, hlast⟩ := hout
  have hperm : (drawing ++ [first, second]).Perm (drawing ++ [second, first]) := (List.Perm.swap second first []).append_left _
  obtain ⟨⟨-, -, -, -, hstate, hreleased⟩, -⟩ := delivery_order_irrelevant.1 _ _ _ _ hperm hin hjob
  exact ⟨hin, job, hjob, hstate.symm, hreleased.symm, hlast⟩

end DeliveryExample

end ArsSolana
