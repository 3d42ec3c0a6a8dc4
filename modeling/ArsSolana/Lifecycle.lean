import ArsSolana.Library.EventSourcing
import ArsSolana.Principal

/-!
# The lifecycle of a job, without its data

What the principal track is for: a job is opened, underwritten, draws principal one or more times, submits evidence, may be
disputed, and is closed; or its underwriting fails. The words of complete lifecycles are listed in `Complete`; `lifecycle` is
the table of moves, as an event-sourced machine over the letters of an event log, and `accepted_iff` says that it accepts
exactly the non-empty prefixes of complete words.
-/

namespace ArsSolana

open EventSourcing

/-- What the lifecycle sees of an event: its kind, and for the verdict of underwriting whether it passed. -/
inductive Letter where
  | opened | started | decided (passed : Bool) | released | evidence | disputed | closed
  deriving DecidableEq, Repr

/-- The state a job is in after an event of this kind. -/
def Letter.state : Letter → PrincipalState
  | .opened => .awaitUnderwriting
  | .started => .underwriting
  | .decided passed => if passed then .releasable else .rejected
  | .released => .executing
  | .evidence => .evidenceSubmitted
  | .disputed => .disputed
  | .closed => .closed

/-- The states that allow an event of this kind, `none` standing for no job. -/
def Letter.allowedIn : Letter → List (Option PrincipalState)
  | .opened => [none]
  | .started => [some .awaitUnderwriting]
  | .decided _ => [some .underwriting]
  | .released => [some .releasable, some .executing]
  | .evidence => [some .executing]
  | .disputed => [some .evidenceSubmitted]
  | .closed => [some .evidenceSubmitted, some .disputed]

instance (s : Option PrincipalState) (l : Letter) : Decidable (s ∈ l.allowedIn) :=
  inferInstanceAs (Decidable (s ∈ (l.allowedIn : List (Option PrincipalState))))

/-- The table of `allowedIn`, as equations. -/
theorem Letter.mem_allowedIn {s : Option PrincipalState} {l : Letter} :
    s ∈ l.allowedIn ↔
      match l with
      | .opened => s = none
      | .started => s = some .awaitUnderwriting
      | .decided _ => s = some .underwriting
      | .released => s = some .releasable ∨ s = some .executing
      | .evidence => s = some .executing
      | .disputed => s = some .evidenceSubmitted
      | .closed => s = some .evidenceSubmitted ∨ s = some .disputed := by
  cases l <;> simp [allowedIn]

/-- The table of moves. -/
def lifecycle : Machine PrincipalState Letter Unit where
  step s l := if s ∈ l.allowedIn then .ok l.state else .error ()
  empty := ()

/-- A move is made exactly from a state that allows it, and leads to the state of its letter. -/
theorem lifecycle_step_iff {s : Option PrincipalState} {l : Letter} {t : PrincipalState} :
    lifecycle.step s l = .ok t ↔ s ∈ l.allowedIn ∧ t = l.state := by
  by_cases h : s ∈ l.allowedIn <;> simp [lifecycle, h, eq_comm]

/-! ## Words -/

/-- A job whose underwriting passed. -/
def underwritten : List Letter := [.opened, .started, .decided true]

/-- A job that drew principal `n + 1` times. -/
def drawn (n : Nat) : List Letter := underwritten ++ List.replicate (n + 1) .released

/-- The words of complete lifecycles. -/
inductive Complete : List Letter → Prop
  | rejected : Complete [.opened, .started, .decided false]
  | clean (n : Nat) : Complete (drawn n ++ [.evidence, .closed])
  | disputed (n : Nat) : Complete (drawn n ++ [.evidence, .disputed, .closed])

/-- The words that lead to a state. -/
def Shape : PrincipalState → List Letter → Prop
  | .awaitUnderwriting, w => w = [.opened]
  | .underwriting, w => w = [.opened, .started]
  | .rejected, w => w = [.opened, .started, .decided false]
  | .releasable, w => w = underwritten
  | .executing, w => ∃ n, w = drawn n
  | .evidenceSubmitted, w => ∃ n, w = drawn n ++ [.evidence]
  | .disputed, w => ∃ n, w = drawn n ++ [.evidence, .disputed]
  | .closed, w => ∃ n, w = drawn n ++ [.evidence, .closed] ∨ w = drawn n ++ [.evidence, .disputed, .closed]

theorem drawn_succ (n : Nat) : drawn (n + 1) = drawn n ++ [.released] := by
  simp only [drawn, List.append_assoc, ← List.replicate_succ']

/-- One accepted event leads from the words of a state to the words of the next one. -/
theorem shape_step {w : List Letter} {s t : PrincipalState} {l : Letter} (h : Shape s w)
    (hs : lifecycle.step (some s) l = .ok t) : Shape t (w ++ [l]) := by
  obtain ⟨hin, rfl⟩ := lifecycle_step_iff.mp hs
  have hallowed := Letter.mem_allowedIn.mp hin
  cases l with
  | opened => cases hallowed
  | started =>
    cases hallowed
    have hw : w = [.opened] := h
    simp [Letter.state, Shape, hw]
  | decided passed =>
    cases hallowed
    have hw : w = [.opened, .started] := h
    cases passed <;> simp [Letter.state, Shape, hw, underwritten]
  | released =>
    rcases hallowed with hs | hs
    · cases hs
      have hw : w = underwritten := h
      exact ⟨0, by rw [hw]; rfl⟩
    · cases hs
      obtain ⟨n, rfl⟩ := h
      exact ⟨n + 1, (drawn_succ n).symm⟩
  | evidence =>
    cases hallowed
    obtain ⟨n, rfl⟩ := h
    exact ⟨n, rfl⟩
  | disputed =>
    cases hallowed
    obtain ⟨n, rfl⟩ := h
    exact ⟨n, by simp⟩
  | closed =>
    rcases hallowed with hs | hs
    · cases hs
      obtain ⟨n, rfl⟩ := h
      exact ⟨n, Or.inl (by simp)⟩
    · cases hs
      obtain ⟨n, rfl⟩ := h
      exact ⟨n, Or.inr (by simp)⟩

/-- The first event of a word that is accepted opens the job. -/
theorem shape_first {l : Letter} {t : PrincipalState} (hs : lifecycle.step none l = .ok t) : Shape t [l] := by
  obtain ⟨hin, rfl⟩ := lifecycle_step_iff.mp hs
  have hallowed := Letter.mem_allowedIn.mp hin
  cases l with
  | opened => rfl
  | released => rcases hallowed with hs | hs <;> cases hs
  | closed => rcases hallowed with hs | hs <;> cases hs
  | _ => cases hallowed

/-! ## Acceptance -/

/-- The words of draws lead to EXECUTING. -/
theorem run_drawn (n : Nat) : lifecycle.run none (drawn n) = .ok (some .executing) := by
  induction n with
  | zero => rfl
  | succ n ih => rw [drawn_succ, lifecycle.run_append_ok ih]; rfl

/-- The machine reaches a state exactly by the words of that state. -/
theorem run_iff_shape {w : List Letter} {s : PrincipalState} :
    lifecycle.run none w = .ok (some s) ↔ Shape s w := by
  constructor
  · intro h
    have hinv := lifecycle.run_induction (P := fun w s => match s with | none => w = [] | some s => Shape s w)
      (i := none) rfl ?_ h
    · exact hinv
    · intro es s e s' _ hP he
      cases s with
      | none =>
        subst hP
        exact shape_first he
      | some s => exact shape_step hP he
  · intro h
    cases s with
    | awaitUnderwriting => cases h; rfl
    | underwriting => cases h; rfl
    | rejected => cases h; rfl
    | releasable => cases h; rfl
    | executing => obtain ⟨n, rfl⟩ := h; exact run_drawn n
    | evidenceSubmitted => obtain ⟨n, rfl⟩ := h; rw [lifecycle.run_append_ok (run_drawn n)]; rfl
    | disputed => obtain ⟨n, rfl⟩ := h; rw [lifecycle.run_append_ok (run_drawn n)]; rfl
    | closed => obtain ⟨n, rfl | rfl⟩ := h <;> rw [lifecycle.run_append_ok (run_drawn n)] <;> rfl

/-- A word of a state begins a complete word. -/
theorem shape_extends {s : PrincipalState} {w : List Letter} (h : Shape s w) :
    w ≠ [] ∧ ∃ full, Complete full ∧ w <+: full := by
  cases s with
  | awaitUnderwriting => cases h; exact ⟨nofun, _, .rejected, [.started, .decided false], rfl⟩
  | underwriting => cases h; exact ⟨nofun, _, .rejected, [.decided false], rfl⟩
  | rejected => cases h; exact ⟨nofun, _, .rejected, List.prefix_refl _⟩
  | releasable => cases h; exact ⟨nofun, _, .clean 0, [.released, .evidence, .closed], rfl⟩
  | executing => obtain ⟨n, rfl⟩ := h; exact ⟨nofun, _, .clean n, List.prefix_append _ _⟩
  | evidenceSubmitted => obtain ⟨n, rfl⟩ := h; exact ⟨nofun, _, .clean n, [.closed], by simp⟩
  | disputed => obtain ⟨n, rfl⟩ := h; exact ⟨nofun, _, .disputed n, [.closed], by simp⟩
  | closed =>
    obtain ⟨n, rfl | rfl⟩ := h
    · exact ⟨nofun, _, .clean n, List.prefix_refl _⟩
    · exact ⟨nofun, _, .disputed n, List.prefix_refl _⟩

/-- A complete word is accepted, and leaves the job in a terminal state. -/
theorem run_complete {w : List Letter} (h : Complete w) :
    lifecycle.run none w = .ok (some .rejected) ∨ lifecycle.run none w = .ok (some .closed) := by
  cases h with
  | rejected => exact Or.inl rfl
  | clean n => exact Or.inr (run_iff_shape.mpr ⟨n, Or.inl rfl⟩)
  | disputed n => exact Or.inr (run_iff_shape.mpr ⟨n, Or.inr rfl⟩)

/-- The machine accepts exactly the non-empty prefixes of complete words. -/
theorem accepted_iff {w : List Letter} :
    (∃ s, lifecycle.run none w = .ok (some s)) ↔ w ≠ [] ∧ ∃ full, Complete full ∧ w <+: full := by
  constructor
  · intro hex
    obtain ⟨s, hs⟩ := hex
    exact shape_extends (run_iff_shape.mp hs)
  · intro hprefix
    obtain ⟨hne, full, hfull, rest, rfl⟩ := hprefix
    have hrun : ∃ t, lifecycle.run none (w ++ rest) = .ok t := by
      rcases run_complete hfull with h | h
      · exact ⟨_, h⟩
      · exact ⟨_, h⟩
    obtain ⟨t, ht⟩ := hrun
    obtain ⟨u, hu, -⟩ := lifecycle.run_prefix ht
    obtain ⟨s, rfl⟩ := lifecycle.run_some hu hne
    exact ⟨s, hu⟩

/-! ## What an accepted word cannot do -/

/-- The state is decided by the last event. -/
theorem run_last {w : List Letter} {l : Letter} {s : PrincipalState}
    (h : lifecycle.run none (w ++ [l]) = .ok (some s)) : s = l.state := by
  obtain ⟨u, t, _, ht, hst⟩ := lifecycle.run_concat_iff.mp h
  obtain rfl := Option.some.inj hst
  exact (lifecycle_step_iff.mp ht).2

/-- The state before an accepted event allows it. -/
theorem run_before {w : List Letter} {l : Letter} {w' : List Letter} {s : Option PrincipalState}
    (h : lifecycle.run none (w ++ l :: w') = .ok s) :
    ∃ u, lifecycle.run none w = .ok u ∧ u ∈ l.allowedIn ∧ lifecycle.run (some l.state) w' = .ok s := by
  obtain ⟨u, hu, hrest⟩ := lifecycle.run_prefix h
  cases hl : lifecycle.step u l with
  | error x => rw [lifecycle.run_cons_error hl] at hrest; cases hrest
  | ok t =>
    rw [lifecycle.run_cons_ok hl] at hrest
    obtain ⟨hin, rfl⟩ := lifecycle_step_iff.mp hl
    exact ⟨u, hu, hin, hrest⟩

theorem decided_mem_drawn (n : Nat) : Letter.decided true ∈ drawn n := by simp [drawn, underwritten]

/-- Principal is released only after underwriting passed. -/
theorem released_after_decided {w w' : List Letter} {s : Option PrincipalState}
    (h : lifecycle.run none (w ++ .released :: w') = .ok s) : .decided true ∈ w := by
  obtain ⟨u, hu, hin, -⟩ := run_before h
  rcases Letter.mem_allowedIn.mp hin with rfl | rfl
  · have hw : w = underwritten := run_iff_shape.mp hu
    simp [hw, underwritten]
  · obtain ⟨n, rfl⟩ := run_iff_shape.mp hu
    exact decided_mem_drawn n

/-- A job is disputed or closed only after evidence was submitted. -/
theorem closing_after_evidence {w w' : List Letter} {l : Letter} {s : Option PrincipalState}
    (hl : l = .disputed ∨ l = .closed) (h : lifecycle.run none (w ++ l :: w') = .ok s) : .evidence ∈ w := by
  obtain ⟨u, hu, hin, -⟩ := run_before h
  have hu' : u = some .evidenceSubmitted ∨ u = some .disputed := by
    rcases hl with rfl | rfl
    · exact Or.inl (Letter.mem_allowedIn.mp hin)
    · exact Letter.mem_allowedIn.mp hin
  rcases hu' with rfl | rfl
  · obtain ⟨n, rfl⟩ := run_iff_shape.mp hu
    simp
  · obtain ⟨n, rfl⟩ := run_iff_shape.mp hu
    simp

end ArsSolana
