import ArsSolana.Library.Outcome
import Mathlib

/-!
# Loops that count

A loop over a list of items that counts those that pass and writes a line for each that fails; a round may also raise, which ends
the loop. The rules: what one round counts, and from it what the whole loop has counted.
-/

namespace Tally

variable {α : Type} {answered : α → Bool} {LineOf : α → String → Prop}

/-- The number of items that passed, and the lines of those that failed. -/
abbrev Count := Int × List String

/-- What was counted of the items seen: every item once, and the failures in order, each on a line of its own. -/
structure Counted (answered : α → Bool) (LineOf : α → String → Prop) (seen : List α) (count : Count) : Prop where
  total : count.1 + count.2.length = seen.length
  passed : count.1 = seen.countP answered
  failed : List.Forall₂ LineOf (seen.filter fun v => !answered v) count.2

/-- One round counts its item. -/
inductive Round (answered : α → Bool) (LineOf : α → String → Prop) (v : α) : Count → Count → Prop
  | pass {n : Int} {lines : List String} : answered v = true → Round answered LineOf v (n, lines) (n + 1, lines)
  | fail {n : Int} {lines : List String} {line : String} : answered v = false → LineOf v line →
      Round answered LineOf v (n, lines) (n, lines ++ [line])

/-- Nothing has been counted of no items. -/
theorem counted_nil : Counted answered LineOf [] (0, []) where
  total := rfl
  passed := rfl
  failed := .nil

/-- A round adds its item to what was counted. -/
theorem Counted.round {seen : List α} {v : α} {count count' : Count} (h : Counted answered LineOf seen count)
    (hround : Round answered LineOf v count count') : Counted answered LineOf (seen ++ [v]) count' := by
  have htotal := h.total
  have hpassed := h.passed
  cases hround with
  | pass hv =>
    exact {
      total := by simp only [List.length_append, List.length_singleton] at htotal ⊢; omega
      passed := by simp only [List.countP_append, List.countP_singleton, hv, if_true] at hpassed ⊢; omega
      failed := by
        rw [List.filter_append]
        simpa [hv] using h.failed }
  | fail hv hline =>
    exact {
      total := by simp only [List.length_append, List.length_singleton] at htotal ⊢; omega
      passed := by simpa [hv] using hpassed
      failed := by
        rw [List.filter_append]
        simp only [List.filter_singleton, hv, Bool.not_false]
        exact List.rel_append h.failed (.cons hline .nil) }

/-- Nothing failed exactly when every item passed. -/
theorem Counted.failed_eq_nil_iff {seen : List α} {count : Count} (h : Counted answered LineOf seen count) :
    count.2 = [] ↔ ∀ v ∈ seen, answered v = true := by
  have hlength := h.failed.length_eq
  rw [← List.length_eq_zero_iff, ← hlength, List.length_eq_zero_iff, List.filter_eq_nil_iff]
  simp

/-- Items that stand for others are counted as those. -/
theorem Counted.map {β : Type} {f : β → α} {seen : List β} {count : Count}
    (h : Counted (fun b => answered (f b)) (fun b => LineOf (f b)) seen count) : Counted answered LineOf (seen.map f) count where
  total := h.total.trans (congrArg Nat.cast (List.length_map f).symm)
  passed := h.passed.trans (congrArg Nat.cast List.countP_map.symm)
  failed := by
    rw [List.filter_map, List.forall₂_map_left_iff]
    exact h.failed

/-! ## The loop -/

section Loop

variable {ρ χ β : Type} {f : ρ → α → Except χ ρ}

/-- A loop whose rounds count has counted. -/
theorem counted_foldlM (count : ρ → Count)
    (hround : ∀ r v r', f r v = .ok r' → Round answered LineOf v (count r) (count r')) {seen vs : List α} {r r' : ρ}
    (h : Counted answered LineOf seen (count r)) (hloop : vs.foldlM f r = .ok r') :
    Counted answered LineOf (seen ++ vs) (count r') := by
  induction vs generalizing seen r with
  | nil =>
    cases hloop
    simpa using h
  | cons v vs ih =>
    rw [List.foldlM_cons] at hloop
    obtain ⟨next, hv, hrest⟩ := Outcome.bind_ok hloop
    have hnext := ih (h.round (hround r v next hv)) hrest
    rwa [List.append_assoc, List.singleton_append] at hnext

/-- What no round changes, the loop does not change. -/
theorem frame_foldlM (frame : ρ → β) (hframe : ∀ r v r', f r v = .ok r' → frame r' = frame r) {r r' : ρ} {vs : List α}
    (hloop : vs.foldlM f r = .ok r') : frame r' = frame r := by
  induction vs generalizing r with
  | nil =>
    cases hloop
    rfl
  | cons v vs ih =>
    rw [List.foldlM_cons] at hloop
    obtain ⟨next, hv, hrest⟩ := Outcome.bind_ok hloop
    rw [ih hrest, hframe r v next hv]

/-- A loop whose rounds end or raise by their items ends exactly when no item raises. -/
theorem foldlM_ok_iff {Ends : α → Prop} (hends : ∀ r v, (∃ r', f r v = .ok r') ↔ Ends v) {r : ρ} {vs : List α} :
    (∃ r', vs.foldlM f r = .ok r') ↔ ∀ v ∈ vs, Ends v := by
  induction vs generalizing r with
  | nil => exact iff_of_true ⟨r, rfl⟩ (by simp)
  | cons v vs ih =>
    rw [List.foldlM_cons, List.forall_mem_cons, ← hends r v, Outcome.bind_isOk_iff]
    constructor
    · intro h
      obtain ⟨next, hv, hrest⟩ := h
      exact ⟨⟨next, hv⟩, ih.mp hrest⟩
    · intro h
      obtain ⟨⟨next, hv⟩, hrest⟩ := h
      exact ⟨next, hv, ih.mpr hrest⟩

end Loop

/-! ## A loop that never raises -/

/-- A loop without exceptions, as one that could raise. -/
theorem foldlM_pure_rounds {ρ : Type} (χ : Type) (f : ρ → α → ρ) (vs : List α) (r : ρ) :
    vs.foldlM (fun r v => (.ok (f r v) : Except χ ρ)) r = .ok (vs.foldl f r) := List.foldlM_pure

end Tally
