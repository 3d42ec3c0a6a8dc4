import Mathlib.Logic.Basic

/-!
# Outcomes

What a sequence of two steps does, each of which returns or fails, and when two programs end alike.
-/

namespace Outcome

universe u v

variable {χ : Type u} {α β : Type}

/-- A step that returned is followed by the next one. -/
@[simp] theorem ok_bind (a : α) (f : α → Except χ β) : ((.ok a : Except χ α) >>= f) = f a := rfl

/-- A step that failed is followed by none. -/
@[simp] theorem error_bind (x : χ) (f : α → Except χ β) : ((.error x : Except χ α) >>= f) = .error x := rfl

/-- What a sequence returned, the second step returned on what the first did. -/
theorem bind_ok {x : Except χ α} {f : α → Except χ β} {r : β} (h : (x >>= f) = .ok r) : ∃ a, x = .ok a ∧ f a = .ok r := by
  cases x with
  | error e => cases h
  | ok a => exact ⟨a, rfl, h⟩

/-- What a sequence failed with, one of the two steps failed with. -/
theorem bind_error {x : Except χ α} {f : α → Except χ β} {e : χ} (h : (x >>= f) = .error e) :
    x = .error e ∨ ∃ a, x = .ok a ∧ f a = .error e := by
  cases x with
  | error e' => exact Or.inl (congrArg Except.error (Except.error.inj h))
  | ok a => exact Or.inr ⟨a, rfl, h⟩

/-- A step that cannot fail only changes what is returned. -/
theorem bind_pure (x : Except χ α) (f : α → β) : (x >>= fun a => .ok (f a)) = x.map f := by
  cases x <;> rfl

/-- A sequence returns exactly when the first step does and then the second. -/
theorem bind_isOk_iff {x : Except χ α} {f : α → Except χ β} :
    (∃ r, (x >>= f) = .ok r) ↔ ∃ a, x = .ok a ∧ ∃ r, f a = .ok r := by
  constructor
  · intro h
    obtain ⟨r, hr⟩ := h
    obtain ⟨a, ha, hf⟩ := bind_ok hr
    exact ⟨a, ha, r, hf⟩
  · intro h
    obtain ⟨a, rfl, hf⟩ := h
    exact hf

theorem ok_isOk (a : α) : ∃ r, (.ok a : Except χ α) = .ok r := ⟨a, rfl⟩

/-- Wrapping its errors does not change what a step returns. -/
theorem mapError_ok {χ' : Type v} {f : χ → χ'} {x : Except χ α} {a : α} (h : x.mapError f = .ok a) : x = .ok a := by
  cases x with
  | error e => cases h
  | ok a' =>
    cases h
    rfl

/-! ## Two programs side by side -/

section Agree

variable {χ' ρ ρ' : Type} {E : χ → χ' → Prop} {R : ρ → ρ' → Prop}

/-- Both return related results, or both fail with related errors. -/
inductive Agree (E : χ → χ' → Prop) (R : ρ → ρ' → Prop) : Except χ ρ → Except χ' ρ' → Prop
  | ok {r : ρ} {r' : ρ'} : R r r' → Agree E R (.ok r) (.ok r')
  | error {e : χ} {e' : χ'} : E e e' → Agree E R (.error e) (.error e')

/-- Both return or neither does. -/
theorem Agree.isOk_iff {x : Except χ ρ} {x' : Except χ' ρ'} (h : Agree E R x x') : (∃ r, x = .ok r) ↔ ∃ r', x' = .ok r' := by
  cases h with
  | ok hr => exact iff_of_true ⟨_, rfl⟩ ⟨_, rfl⟩
  | error he => exact iff_of_false nofun nofun

/-- What the first program returned, the second returned up to the relation. -/
theorem Agree.of_ok {x : Except χ ρ} {x' : Except χ' ρ'} (h : Agree E R x x') {r : ρ} (hx : x = .ok r) :
    ∃ r', x' = .ok r' ∧ R r r' := by
  subst hx
  cases h with
  | ok hr => exact ⟨_, rfl, hr⟩

/-- Two outcomes that agree with a third: all are results or all are errors. -/
theorem Agree.common {χ'' τ : Type} {F : χ'' → χ' → Prop} {S : τ → ρ' → Prop} {x : Except χ ρ} {y : Except χ'' τ}
    {t : Except χ' ρ'} (h : Agree E R x t) (h' : Agree F S y t) :
    (∃ a b c, x = .ok a ∧ y = .ok b ∧ t = .ok c ∧ R a c ∧ S b c) ∨
      ∃ e f g, x = .error e ∧ y = .error f ∧ t = .error g ∧ E e g ∧ F f g := by
  cases h with
  | ok ha => cases h' with | ok hb => exact Or.inl ⟨_, _, _, rfl, rfl, rfl, ha, hb⟩
  | error he => cases h' with | error hf => exact Or.inr ⟨_, _, _, rfl, rfl, rfl, he, hf⟩

/-- Sequences agree when their first steps do and, on related results, what follows. -/
theorem Agree.bind {σ σ' : Type} {S : σ → σ' → Prop} {x : Except χ ρ} {x' : Except χ' ρ'} {f : ρ → Except χ σ}
    {f' : ρ' → Except χ' σ'} (h : Agree E R x x') (hf : ∀ r r', R r r' → Agree E S (f r) (f' r')) :
    Agree E S (x >>= f) (x' >>= f') := by
  cases h with
  | ok hr => exact hf _ _ hr
  | error he => exact .error he

/-- Loops agree when their rounds do. -/
theorem Agree.foldlM {f : ρ → α → Except χ ρ} {f' : ρ' → α → Except χ' ρ'}
    (hround : ∀ r r' a, R r r' → Agree E R (f r a) (f' r' a)) (as : List α) {r : ρ} {r' : ρ'} (h : R r r') :
    Agree E R (as.foldlM f r) (as.foldlM f' r') := by
  induction as generalizing r r' with
  | nil => exact .ok h
  | cons a as ih =>
    rw [List.foldlM_cons, List.foldlM_cons]
    exact (hround r r' a h).bind fun next next' hnext => ih hnext

/-- The errors of the second program may be wrapped. -/
theorem Agree.mapError {χ'' : Type} {F : χ → χ'' → Prop} {wrap : χ' → χ''} {x : Except χ ρ} {x' : Except χ' ρ'}
    (h : Agree E R x x') (hwrap : ∀ e e', E e e' → F e (wrap e')) : Agree F R x (x'.mapError wrap) := by
  cases h with
  | ok hr => exact .ok hr
  | error he => exact .error (hwrap _ _ he)

end Agree

end Outcome
