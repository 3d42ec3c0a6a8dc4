import ArsSolana.Library.Outcome
import Mathlib.Logic.Function.Basic
import Mathlib.Data.List.Basic
import Mathlib.Data.List.Induction

/-!
# Event-sourced machines

A machine whose state is derived by folding a log of events through one transition function that may refuse an event. The
state before the first event is `none`. Two ways to feed it a log: `run` and `replay` stop at the first refusal, `settle`
skips what is refused and goes on, as a store does that validates on append.
-/

namespace EventSourcing

/-- A transition function over optional states (no state before the first event), and the error of an empty log. -/
structure Machine (σ ε χ : Type) where
  step : Option σ → ε → Except χ σ
  empty : χ

namespace Machine

variable {σ ε χ : Type} (M : Machine σ ε χ)

/-! ## Replaying a log -/

/-- Fold a log through the transition function, stopping at the first refusal. -/
def run : Option σ → List ε → Except χ (Option σ)
  | s, [] => .ok s
  | s, e :: es =>
    match M.step s e with
    | .error x => .error x
    | .ok s' => run (some s') es

/-- The state a log derives: a log that leaves no state is refused. -/
def replay (log : List ε) : Except χ σ :=
  match M.run none log with
  | .error x => .error x
  | .ok none => .error M.empty
  | .ok (some s) => .ok s

@[simp] theorem run_nil (s : Option σ) : M.run s [] = .ok s := rfl

theorem run_cons_ok {s : Option σ} {e : ε} {s' : σ} (h : M.step s e = .ok s') (es : List ε) :
    M.run s (e :: es) = M.run (some s') es := by
  simp only [run, h]

theorem run_cons_error {s : Option σ} {e : ε} {x : χ} (h : M.step s e = .error x) (es : List ε) :
    M.run s (e :: es) = .error x := by
  simp only [run, h]

/-- A log in two parts: the second goes on from where the first led. -/
theorem run_append_ok {s t : Option σ} {as : List ε} (h : M.run s as = .ok t) (bs : List ε) :
    M.run s (as ++ bs) = M.run t bs := by
  induction as generalizing s with
  | nil => cases h; rfl
  | cons e es ih =>
    cases hs : M.step s e with
    | error x => rw [M.run_cons_error hs] at h; cases h
    | ok s' =>
      rw [M.run_cons_ok hs] at h
      rw [List.cons_append, M.run_cons_ok hs, ih h]

/-- What refuses a part at the front refuses the log. -/
theorem run_append_error {s : Option σ} {x : χ} {as : List ε} (h : M.run s as = .error x) (bs : List ε) :
    M.run s (as ++ bs) = .error x := by
  induction as generalizing s with
  | nil => cases h
  | cons e es ih =>
    cases hs : M.step s e with
    | error y => rw [M.run_cons_error hs] at h; rw [List.cons_append, M.run_cons_error hs, h]
    | ok s' =>
      rw [M.run_cons_ok hs] at h
      rw [List.cons_append, M.run_cons_ok hs, ih h]

/-- A log is accepted with its last event exactly when it is accepted without it and the event is accepted next. -/
theorem run_concat_iff {s : Option σ} {es : List ε} {e : ε} {t : Option σ} :
    M.run s (es ++ [e]) = .ok t ↔ ∃ u t', M.run s es = .ok u ∧ M.step u e = .ok t' ∧ t = some t' := by
  cases hu : M.run s es with
  | error x => simp [M.run_append_error hu]
  | ok u =>
    rw [M.run_append_ok hu]
    cases he : M.step u e with
    | error x => simp [M.run_cons_error he, he]
    | ok t' => simp [M.run_cons_ok he, he, eq_comm]

/-- An accepted log without its last events is accepted. -/
theorem run_prefix {s t : Option σ} {as bs : List ε} (h : M.run s (as ++ bs) = .ok t) :
    ∃ u, M.run s as = .ok u ∧ M.run u bs = .ok t := by
  cases hu : M.run s as with
  | error x => rw [M.run_append_error hu] at h; cases h
  | ok u => exact ⟨u, rfl, by rw [← M.run_append_ok hu]; exact h⟩

/-- After an event there is a state. -/
theorem run_some {s t : Option σ} {es : List ε} (h : M.run s es = .ok t) (hne : es ≠ []) : ∃ u, t = some u := by
  rcases List.eq_nil_or_concat' es with rfl | ⟨as, e, rfl⟩
  · exact absurd rfl hne
  · obtain ⟨_, u, _, _, rfl⟩ := M.run_concat_iff.mp h
    exact ⟨u, rfl⟩

/-- A loop that binds each step and goes on with its state is the fold. -/
theorem forIn_eq_run (log : List ε) (s : Option σ) :
    (forIn log s fun e s => do
      let next ← M.step s e
      pure (ForInStep.yield (some next))) = M.run s log := by
  induction log generalizing s with
  | nil => rfl
  | cons e es ih =>
    rw [List.forIn_cons]
    cases h : M.step s e with
    | error x => rw [M.run_cons_error h]; rfl
    | ok next => rw [M.run_cons_ok h]; exact ih (some next)

/-- The loop, followed by the refusal of a log that left no state, is the replay. -/
theorem forIn_eq_replay (log : List ε) {derived : Option σ → Except χ σ} (hnone : derived none = .error M.empty)
    (hsome : ∀ s, derived (some s) = .ok s) :
    ((forIn log none fun e s => do
        let next ← M.step s e
        pure (ForInStep.yield (some next))) >>= derived) = M.replay log := by
  rw [forIn_eq_run, replay]
  cases M.run none log with
  | error x => rfl
  | ok s =>
    cases s with
    | none => exact hnone
    | some s => exact hsome s

/-- A log replays to the state its run leads to. -/
theorem replay_ok_iff {log : List ε} {s : σ} : M.replay log = .ok s ↔ M.run none log = .ok (some s) := by
  unfold replay
  split <;> simp_all

/-- The rule of induction along an accepted log: what holds of no event, and is kept by each accepted event. -/
theorem run_induction {P : List ε → Option σ → Prop} {i : Option σ} (nil : P [] i)
    (snoc : ∀ es s e s', M.run i es = .ok s → P es s → M.step s e = .ok s' → P (es ++ [e]) (some s')) :
    ∀ {es s}, M.run i es = .ok s → P es s := by
  intro es
  induction es using List.reverseRecOn with
  | nil => intro s h; cases h; exact nil
  | append_singleton es e ih =>
    intro s h
    obtain ⟨u, t, hu, ht, rfl⟩ := M.run_concat_iff.mp h
    exact snoc es u e t hu (ih hu) ht

/-- A measure that no accepted event lowers by more than one is lowered by no more than the length of an accepted log. -/
theorem run_measure {f : Option σ → Nat} (hstep : ∀ s e s', M.step s e = .ok s' → f s ≤ f (some s') + 1) {s t : Option σ}
    {es : List ε} (h : M.run s es = .ok t) : f s ≤ f t + es.length := by
  refine M.run_induction (P := fun es t => f s ≤ f t + es.length) (Nat.le_refl _) ?_ h
  intro es u e u' _ hP he
  have hlast := hstep u e u' he
  rw [List.length_append, List.length_singleton]
  omega

/-- Events the transition function cannot tell apart may be exchanged in a log. -/
theorem run_congr {R : ε → ε → Prop} (hR : ∀ s e e', R e e' → M.step s e = M.step s e') {log log' : List ε}
    (h : List.Forall₂ R log log') (s : Option σ) : M.run s log = M.run s log' := by
  induction h generalizing s with
  | nil => rfl
  | cons he _ ih =>
    simp only [run, hR s _ _ he]
    split
    · rfl
    · exact ih _

/-! ## Where a log is refused -/

/-- The log is refused at its event `k`, for the reason `x`: what comes before is accepted, that event is not. -/
def FailsAt (log : List ε) (k : Nat) (x : χ) : Prop :=
  ∃ s e, log[k]? = some e ∧ M.run none (log.take k) = .ok s ∧ M.step s e = .error x

/-- A log is refused at the first event that is refused. -/
theorem run_error_iff {s : Option σ} {log : List ε} {x : χ} :
    M.run s log = .error x ↔ ∃ k t e, log[k]? = some e ∧ M.run s (log.take k) = .ok t ∧ M.step t e = .error x := by
  constructor
  · intro h
    induction log generalizing s with
    | nil => cases h
    | cons e es ih =>
      cases hs : M.step s e with
      | error y =>
        rw [M.run_cons_error hs] at h
        exact ⟨0, s, e, rfl, rfl, hs.trans (congrArg _ (Except.error.inj h))⟩
      | ok s' =>
        rw [M.run_cons_ok hs] at h
        obtain ⟨k, t, e', hk, ht, he'⟩ := ih h
        exact ⟨k + 1, t, e', by simpa using hk, by rw [List.take_succ_cons, M.run_cons_ok hs, ht], he'⟩
  · intro hex
    obtain ⟨k, t, e, hk, ht, he⟩ := hex
    obtain ⟨hlt, rfl⟩ := List.getElem?_eq_some_iff.mp hk
    rw [← List.take_append_drop k log, M.run_append_ok ht, List.drop_eq_getElem_cons hlt, M.run_cons_error he]

/-- A log is refused exactly when it is empty or one of its events is refused. -/
theorem replay_error_iff {log : List ε} {x : χ} :
    M.replay log = .error x ↔ (log = [] ∧ x = M.empty) ∨ ∃ k, M.FailsAt log k x := by
  constructor
  · intro h
    unfold replay at h
    split at h
    · rename_i y hy
      cases h
      exact Or.inr (M.run_error_iff.mp hy)
    · rename_i hn
      cases h
      by_cases hl : log = []
      · exact Or.inl ⟨hl, rfl⟩
      · obtain ⟨u, hu⟩ := M.run_some hn hl
        cases hu
    · cases h
  · intro hor
    rcases hor with ⟨rfl, rfl⟩ | hk
    · rfl
    · simp only [replay, M.run_error_iff.mpr hk]

variable {M} in
/-- No log is refused at two places, the earlier one first. -/
theorem FailsAt.not_lt {log : List ε} {k k' : Nat} {x x' : χ} (h : M.FailsAt log k x) (h' : M.FailsAt log k' x') :
    ¬k < k' := by
  intro hlt
  obtain ⟨s, e, hk, hs, he⟩ := h
  obtain ⟨s', e', -, hs', -⟩ := h'
  obtain ⟨hklt, rfl⟩ := List.getElem?_eq_some_iff.mp hk
  have hsplit : log.take k' = log.take k ++ log[k] :: (log.take k').drop (k + 1) := by
    conv_lhs => rw [← List.take_append_drop k (log.take k')]
    rw [List.take_take, Nat.min_eq_left (Nat.le_of_lt hlt), List.drop_eq_getElem_cons (by simp; omega), List.getElem_take]
  rw [hsplit, M.run_append_ok hs, M.run_cons_error he] at hs'
  cases hs'

variable {M} in
/-- A log is refused at one event, for one reason. -/
theorem FailsAt.unique {log : List ε} {k k' : Nat} {x x' : χ} (h : M.FailsAt log k x) (h' : M.FailsAt log k' x') :
    k = k' ∧ x = x' := by
  have hk : k = k' := by
    have h₁ := h.not_lt h'
    have h₂ := h'.not_lt h
    omega
  subst hk
  obtain ⟨s, e, hk, hs, he⟩ := h
  obtain ⟨s', e', hk', hs', he'⟩ := h'
  obtain rfl := Option.some.inj (hk.symm.trans hk')
  obtain rfl := Except.ok.inj (hs.symm.trans hs')
  exact ⟨rfl, Except.error.inj (he.symm.trans he')⟩

/-! ## Simulation -/

open Outcome (Agree)

/-- A translation of states and events under which two machines take the same steps and refuse for related reasons. -/
structure Simulation {σ' ε' χ' : Type} (N : Machine σ' ε' χ') where
  state : σ → σ'
  event : ε → ε'
  error : χ → χ' → Prop
  step : ∀ s e, Agree error (fun a b => b = state a) (M.step s e) (N.step (s.map state) (event e))
  empty : error M.empty N.empty

namespace Simulation

variable {M} {σ' ε' χ' : Type} {N : Machine σ' ε' χ'} (S : M.Simulation N)

/-- A log and its translation lead to states that correspond, or are both refused. -/
theorem run (s : Option σ) (log : List ε) :
    Agree S.error (fun a b => b = a.map S.state) (M.run s log) (N.run (s.map S.state) (log.map S.event)) := by
  induction log generalizing s with
  | nil => exact .ok rfl
  | cons e es ih =>
    have hstep := S.step s e
    rw [List.map_cons]
    cases hs : M.step s e with
    | error x =>
      rw [hs] at hstep
      generalize hn : N.step (s.map S.state) (S.event e) = r at hstep
      cases hstep with
      | error hx => rw [M.run_cons_error hs, N.run_cons_error hn]; exact .error hx
    | ok s' =>
      rw [hs] at hstep
      generalize hn : N.step (s.map S.state) (S.event e) = r at hstep
      cases hstep with
      | ok hr => rw [M.run_cons_ok hs, N.run_cons_ok hn, hr]; exact ih (some s')

/-- A log and its translation replay alike. -/
theorem replay (log : List ε) :
    Agree S.error (fun a b => b = S.state a) (M.replay log) (N.replay (log.map S.event)) := by
  have h := S.run none log
  simp only [Option.map_none] at h
  unfold Machine.replay
  generalize M.run none log = r at h
  generalize N.run none (log.map S.event) = r' at h
  cases h with
  | error hx => exact .error hx
  | @ok a b hr =>
    subst hr
    cases a with
    | none => exact .error S.empty
    | some a => exact .ok rfl

/-- The two machines refuse a log at the same event, for related reasons. -/
theorem failsAt {log : List ε} {k : Nat} {x : χ} (h : M.FailsAt log k x) :
    ∃ y, N.FailsAt (log.map S.event) k y ∧ S.error x y := by
  obtain ⟨s, e, hk, hs, he⟩ := h
  have hrun := S.run none (log.take k)
  have hstep := S.step s e
  rw [hs] at hrun
  rw [he] at hstep
  generalize hn : N.step (s.map S.state) (S.event e) = r at hstep
  generalize hn' : N.run ((none : Option σ).map S.state) ((log.take k).map S.event) = r' at hrun
  cases hstep with
  | @error _ y hy =>
    cases hrun with
    | ok hr =>
      subst hr
      exact ⟨y, ⟨_, _, by simp [hk], by rw [← List.map_take]; exact hn', hn⟩, hy⟩

end Simulation

end Machine

end EventSourcing
