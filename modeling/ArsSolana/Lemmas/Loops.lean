import ArsSolana.Library.Tally
import ArsSolana.Python.Conformance

/-!
# Three loops over one report

The self test and the transports run the same three loops, each of which counts in two fields of the report and leaves the others
alone.
-/

namespace ArsSolana.Python

open Tally

variable {α β γ χ : Type} {p : α → Bool} {q : β → Bool} {o : γ → Bool} {L : α → String → Prop} {M : β → String → Prop}
  {N : γ → String → Prop}

namespace ConformanceReport

def stateCount (r : ConformanceReport) : Count := (r.statePassed, r.stateFailed)

def illegalCount (r : ConformanceReport) : Count := (r.illegalPassed, r.illegalFailed)

def viewBondCount (r : ConformanceReport) : Count := (r.viewBondPassed, r.viewBondFailed)

/-- A report is ok exactly when nothing failed. -/
theorem ok_iff (r : ConformanceReport) :
    r.ok = true ↔ r.stateFailed = [] ∧ r.illegalFailed = [] ∧ r.viewBondFailed = [] := by
  simp [ok, and_assoc]

end ConformanceReport

/-- The report has counted three lists. -/
structure Tallied (p : α → Bool) (L : α → String → Prop) (q : β → Bool) (M : β → String → Prop) (o : γ → Bool)
    (N : γ → String → Prop) (as : List α) (bs : List β) (cs : List γ) (r : ConformanceReport) : Prop where
  state : Counted p L as r.stateCount
  illegal : Counted q M bs r.illegalCount
  viewBond : Counted o N cs r.viewBondCount

/-- A counted report is ok exactly when every item of the three lists passed. -/
theorem Tallied.ok_iff {as : List α} {bs : List β} {cs : List γ} {r : ConformanceReport} (h : Tallied p L q M o N as bs cs r) :
    r.ok = true ↔ (∀ a ∈ as, p a = true) ∧ (∀ b ∈ bs, q b = true) ∧ ∀ c ∈ cs, o c = true := by
  rw [← h.state.failed_eq_nil_iff, ← h.illegal.failed_eq_nil_iff, ← h.viewBond.failed_eq_nil_iff]
  exact r.ok_iff

section Loops

variable {f : ConformanceReport → α → Except χ ConformanceReport} {g : ConformanceReport → β → Except χ ConformanceReport}
  {k : ConformanceReport → γ → Except χ ConformanceReport} {as : List α} {bs : List β} {cs : List γ}

/-- Three loops whose rounds count, each in its own fields, have counted. -/
theorem tallied_of_loops {r₁ r₂ r₃ : ConformanceReport}
    (hf : ∀ r a r', f r a = .ok r' → Round p L a r.stateCount r'.stateCount ∧
      (r'.illegalCount, r'.viewBondCount) = (r.illegalCount, r.viewBondCount))
    (hg : ∀ r b r', g r b = .ok r' → Round q M b r.illegalCount r'.illegalCount ∧
      (r'.stateCount, r'.viewBondCount) = (r.stateCount, r.viewBondCount))
    (hk : ∀ r c r', k r c = .ok r' → Round o N c r.viewBondCount r'.viewBondCount ∧
      (r'.stateCount, r'.illegalCount) = (r.stateCount, r.illegalCount))
    (h₁ : as.foldlM f {} = .ok r₁) (h₂ : bs.foldlM g r₁ = .ok r₂) (h₃ : cs.foldlM k r₂ = .ok r₃) :
    Tallied p L q M o N as bs cs r₃ := by
  have hframe₁ := frame_foldlM (fun r => (r.illegalCount, r.viewBondCount)) (fun r a r' h => (hf r a r' h).2) h₁
  have hframe₂ := frame_foldlM (fun r => (r.stateCount, r.viewBondCount)) (fun r b r' h => (hg r b r' h).2) h₂
  have hframe₃ := frame_foldlM (fun r => (r.stateCount, r.illegalCount)) (fun r c r' h => (hk r c r' h).2) h₃
  obtain ⟨hillegal₁, hviewBond₁⟩ := Prod.mk.inj hframe₁
  obtain ⟨hstate₂, hviewBond₂⟩ := Prod.mk.inj hframe₂
  obtain ⟨hstate₃, hillegal₃⟩ := Prod.mk.inj hframe₃
  have hnone₂ : Counted q M [] r₁.illegalCount := by
    rw [hillegal₁]
    exact counted_nil
  have hnone₃ : Counted o N [] r₂.viewBondCount := by
    rw [hviewBond₂, hviewBond₁]
    exact counted_nil
  have hcount₁ : Counted p L ([] ++ as) r₁.stateCount :=
    counted_foldlM ConformanceReport.stateCount (fun r a r' h => (hf r a r' h).1) counted_nil h₁
  have hcount₂ := counted_foldlM ConformanceReport.illegalCount (fun r b r' h => (hg r b r' h).1) hnone₂ h₂
  have hcount₃ := counted_foldlM ConformanceReport.viewBondCount (fun r c r' h => (hk r c r' h).1) hnone₃ h₃
  rw [List.nil_append] at hcount₁ hcount₂ hcount₃
  exact {
    state := by rwa [hstate₃, hstate₂]
    illegal := by rwa [hillegal₃]
    viewBond := hcount₃ }

end Loops

end ArsSolana.Python
