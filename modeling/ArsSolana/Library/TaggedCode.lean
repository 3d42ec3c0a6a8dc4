import Mathlib.Data.List.Basic
import Mathlib.Data.List.Infix

/-!
# Tagged words

Words made of a tag and a body, without a delimiter between them, where the tag decides how long the body is. A word can be read
in one way only when no two tags can produce one word: their words differ in length, or neither tag begins the other.
-/

namespace TaggedCode

/-- A tag, and the length of the bodies that follow it. -/
structure Tag (α : Type) where
  text : List α
  width : Nat

variable {α : Type}

/-- No word carries both tags. -/
def Tag.Apart (t u : Tag α) : Prop :=
  t.text.length + t.width ≠ u.text.length + u.width ∨ ¬(t.text <+: u.text ∨ u.text <+: t.text)

instance [DecidableEq α] (t u : Tag α) : Decidable (t.Apart u) := inferInstanceAs (Decidable (_ ∨ _))

/-- Tags that stand apart have no word in common. -/
theorem Tag.Apart.words_ne {t u : Tag α} (h : t.Apart u) {b c : List α} (hb : b.length = t.width)
    (hc : c.length = u.width) : t.text ++ b ≠ u.text ++ c := by
  intro heq
  rcases h with hlen | htext
  · have hlen' := congrArg List.length heq
    rw [List.length_append, List.length_append, hb, hc] at hlen'
    exact hlen hlen'
  · have ht : t.text <+: u.text ++ c := heq ▸ List.prefix_append t.text b
    have hu : u.text <+: u.text ++ c := List.prefix_append u.text c
    exact htext (List.prefix_or_prefix_of_prefix ht hu)

/-- Over tags that stand apart, a word determines its tag and its body. -/
theorem word_injective {ι : Type} {tag : ι → Tag α} (h : ∀ i j, i ≠ j → (tag i).Apart (tag j)) {i j : ι} {b c : List α}
    (hb : b.length = (tag i).width) (hc : c.length = (tag j).width) (heq : (tag i).text ++ b = (tag j).text ++ c) :
    i = j ∧ b = c := by
  have hij : i = j := by
    by_contra hne
    exact (h i j hne).words_ne hb hc heq
  subst hij
  exact ⟨rfl, List.append_cancel_left heq⟩

end TaggedCode
