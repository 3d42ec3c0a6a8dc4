import Mathlib.Data.List.Perm.Basic
import Mathlib.Data.List.Sort

/-!
# Lists in the order of a rank

A list in which the rank of the elements grows, and may only stay where it is `k`. Two such lists with the same elements differ at
most in the order of the elements of rank `k`.
-/

namespace Ranked

variable {ε : Type} {rank : ε → Nat} {k : Nat} {l l' : List ε}

/-- The rank grows along the list, except from one element of rank `k` to another. -/
def Ordered (rank : ε → Nat) (k : Nat) (l : List ε) : Prop := l.Pairwise fun a b => rank a < rank b ∨ rank a = k ∧ rank b = k

/-- The rank is nowhere lower than before. -/
theorem Ordered.le (h : Ordered rank k l) : l.Pairwise fun a b => rank a ≤ rank b := by
  refine List.Pairwise.imp ?_ h
  intro a b hab
  omega

/-- A list whose elements with a property all come first is these and then the others. -/
theorem filter_append_filter_not {p : ε → Bool} (h : l.Pairwise fun a b => p b = true → p a = true) :
    l.filter p ++ l.filter (fun a => !p a) = l := by
  induction l with
  | nil => rfl
  | cons a l ih =>
    obtain ⟨hfirst, hrest⟩ := List.pairwise_cons.mp h
    by_cases ha : p a = true
    · simp [ha, ih hrest]
    · have hnone : ∀ b ∈ l, ¬p b = true := fun b hb hpb => ha (hfirst b hb hpb)
      have hall : ∀ b ∈ l, (!p b) = true := by simpa using hnone
      rw [List.filter_cons_of_neg ha, List.filter_cons_of_pos (by simpa using ha), List.filter_eq_nil_iff.mpr hnone,
        List.filter_eq_self.mpr hall, List.nil_append]

/-- The elements below `k`, at `k` and above `k` follow one another. -/
theorem Ordered.split (h : Ordered rank k l) :
    l = l.filter (fun a => rank a < k) ++ l.filter (fun a => rank a = k) ++ l.filter (fun a => k < rank a) := by
  have hle : (l.filter fun a => rank a ≤ k) = l.filter (fun a => rank a < k) ++ l.filter (fun a => rank a = k) := by
    have hsorted : (l.filter fun a => rank a ≤ k).Pairwise
        fun a b => decide (rank b < k) = true → decide (rank a < k) = true := by
      refine List.Pairwise.imp ?_ (h.le.filter _)
      simp only [decide_eq_true_eq]
      omega
    have hparts := filter_append_filter_not hsorted
    rw [List.filter_filter, List.filter_filter] at hparts
    rw [← hparts]
    congr 1
    · refine List.filter_congr fun a _ => ?_
      grind
    · refine List.filter_congr fun a _ => ?_
      grind
  have hgt : l.filter (fun a => !decide (rank a ≤ k)) = l.filter fun a => k < rank a := by
    refine List.filter_congr fun a _ => ?_
    grind
  have hsorted : l.Pairwise fun a b => decide (rank b ≤ k) = true → decide (rank a ≤ k) = true := by
    refine List.Pairwise.imp ?_ h.le
    simp only [decide_eq_true_eq]
    omega
  rw [← hle, ← hgt]
  exact (filter_append_filter_not hsorted).symm

/-- The elements of a list with ranks other than `k` stand in one order. -/
theorem Ordered.filter_eq {p : ε → Bool} (hp : ∀ a, p a = true → rank a ≠ k) (h : Ordered rank k l) (h' : Ordered rank k l')
    (hperm : l.Perm l') : l.filter p = l'.filter p := by
  have hstrict : ∀ {m : List ε}, Ordered rank k m → (m.filter p).Pairwise fun a b => rank a < rank b := by
    intro m hm
    rw [List.pairwise_filter]
    refine List.Pairwise.imp ?_ hm
    intro a b hab ha _
    exact hab.resolve_right fun hk => hp a ha hk.1
  refine List.Perm.eq_of_pairwise ?_ (hstrict h) (hstrict h') (hperm.filter p)
  intro a b _ _ hab hba
  omega

/-- Two ordered lists with the same elements differ at most in the order of the elements of rank `k`. -/
theorem Ordered.reorder (h : Ordered rank k l) (h' : Ordered rank k l') (hperm : l.Perm l') :
    ∃ before mid mid' after, l = before ++ mid ++ after ∧ l' = before ++ mid' ++ after ∧ mid.Perm mid' ∧
      (∀ a ∈ before, rank a < k) ∧ (∀ a ∈ mid, rank a = k) ∧ ∀ a ∈ after, k < rank a := by
  refine ⟨l.filter fun a => rank a < k, l.filter fun a => rank a = k, l'.filter fun a => rank a = k,
    l.filter fun a => k < rank a, h.split, ?_, hperm.filter _, ?_, ?_, ?_⟩
  · have hbelow : (l.filter fun a => rank a < k) = l'.filter fun a => rank a < k :=
      h.filter_eq (fun a ha => by simp at ha; omega) h' hperm
    have habove : (l.filter fun a => k < rank a) = l'.filter fun a => k < rank a :=
      h.filter_eq (fun a ha => by simp at ha; omega) h' hperm
    rw [hbelow, habove]
    exact h'.split
  · intro a ha
    simpa using (List.mem_filter.mp ha).2
  · intro a ha
    simpa using (List.mem_filter.mp ha).2
  · intro a ha
    simpa using (List.mem_filter.mp ha).2

end Ranked
