import Mathlib.Data.List.Basic
import Mathlib.Data.List.Induction

/-!
# A head and fields behind delimiters

The head may be anything, the fields are free of the delimiter: reading from the right, the fields and the head are told apart.
-/

namespace Delimited

variable {α : Type} {d : α}

/-- The head, and each field behind a delimiter. -/
def join (d : α) (head : List α) (fields : List (List α)) : List α := head ++ fields.flatMap (d :: ·)

@[simp] theorem join_nil (head : List α) : join d head [] = head := List.append_nil head

/-- The last field stands behind the last delimiter. -/
theorem join_concat (head : List α) (fields : List (List α)) (field : List α) :
    join d head (fields ++ [field]) = join d head fields ++ d :: field := by
  simp [join]

/-- A delimiter and a list free of it contain no other delimiter. -/
theorem eq_nil_of_suffix {bs bs' cs : List α} (hb : d ∉ bs) (h : d :: bs = cs ++ d :: bs') : cs = [] := by
  cases cs with
  | nil => rfl
  | cons c cs =>
    have hrest : bs = cs ++ d :: bs' := (List.cons.inj h).2
    exact absurd (hrest ▸ List.mem_append_right _ List.mem_cons_self) hb

/-- What stands before and after the last delimiter. -/
theorem split_last {as as' bs bs' : List α} (hb : d ∉ bs) (hb' : d ∉ bs') (h : as ++ d :: bs = as' ++ d :: bs') :
    as = as' ∧ bs = bs' := by
  rcases List.append_eq_append_iff.mp h with ⟨cs, rfl, hcs⟩ | ⟨cs, rfl, hcs⟩
  · obtain rfl := eq_nil_of_suffix hb hcs
    exact ⟨(List.append_nil as).symm, (List.cons.inj hcs).2⟩
  · obtain rfl := eq_nil_of_suffix hb' hcs
    exact ⟨List.append_nil as', (List.cons.inj hcs).2.symm⟩

/-- As many fields, free of the delimiter, are told apart from any head. -/
theorem join_injective {head head' : List α} {fields fields' : List (List α)} (hlength : fields.length = fields'.length)
    (hfree : ∀ f ∈ fields, d ∉ f) (hfree' : ∀ f ∈ fields', d ∉ f) (h : join d head fields = join d head' fields') :
    head = head' ∧ fields = fields' := by
  induction fields using List.reverseRecOn generalizing fields' with
  | nil =>
    obtain rfl := List.eq_nil_of_length_eq_zero hlength.symm
    simp only [join_nil] at h
    exact ⟨h, rfl⟩
  | append_singleton fields field ih =>
    rcases List.eq_nil_or_concat' fields' with rfl | ⟨fields', field', rfl⟩
    · simp at hlength
    · rw [join_concat, join_concat] at h
      obtain ⟨hrest, hfield⟩ := split_last (hfree field (by simp)) (hfree' field' (by simp)) h
      obtain ⟨hhead, hfields⟩ := ih (by simpa using hlength) (fun f hf => hfree f (List.mem_append_left _ hf))
        (fun f hf => hfree' f (List.mem_append_left _ hf)) hrest
      exact ⟨hhead, by rw [hfields, hfield]⟩

end Delimited
