import Mathlib.Data.List.Basic
import Mathlib.Data.List.Nodup
import Mathlib.Logic.Function.Basic

/-!
# Insertion-ordered maps

The map of a scripting language: each key once, in the order the keys were first set; setting a key that is there changes its
value and keeps its place.
-/

/-- Each key with its value, the keys without repetition and in the order they were first set. -/
structure OrderedMap (κ α : Type) where
  entries : List (κ × α)
  nodup : (entries.map Prod.fst).Nodup

namespace OrderedMap

variable {κ α : Type}

/-- The map without keys. -/
def empty : OrderedMap κ α := ⟨[], List.nodup_nil⟩

/-- The keys, in the order they were first set. -/
def keys (m : OrderedMap κ α) : List κ := m.entries.map Prod.fst

theorem keys_nodup (m : OrderedMap κ α) : m.keys.Nodup := m.nodup

variable [DecidableEq κ]

/-- The value of a key in a list of entries. -/
def find (k : κ) : List (κ × α) → Option α
  | [] => none
  | (k', v) :: es => if k' = k then some v else find k es

/-- Change the value of a key in place, or add the key at the end. -/
def put (k : κ) (v : α) : List (κ × α) → List (κ × α)
  | [] => [(k, v)]
  | (k', v') :: es => if k' = k then (k', v) :: es else (k', v') :: put k v es

/-- The value that was put is found. -/
theorem find_put_self (k : κ) (v : α) (es : List (κ × α)) : find k (put k v es) = some v := by
  induction es with
  | nil => simp [put, find]
  | cons e es ih =>
    obtain ⟨k', v'⟩ := e
    by_cases h : k' = k
    · simp [put, find, h]
    · simp [put, find, h, ih]

/-- Putting a value changes no other key. -/
theorem find_put_of_ne {k j : κ} (hj : j ≠ k) (v : α) (es : List (κ × α)) : find j (put k v es) = find j es := by
  induction es with
  | nil => simp [put, find, Ne.symm hj]
  | cons e es ih =>
    obtain ⟨k', v'⟩ := e
    by_cases h : k' = k
    · subst h
      simp [put, find, Ne.symm hj]
    · simp [put, find, h, ih]

/-- Setting a key keeps the list of keys, or adds the key at its end. -/
theorem keys_put (k : κ) (v : α) (es : List (κ × α)) :
    (put k v es).map Prod.fst = if k ∈ es.map Prod.fst then es.map Prod.fst else es.map Prod.fst ++ [k] := by
  induction es with
  | nil => simp [put]
  | cons e es ih =>
    obtain ⟨k', v'⟩ := e
    by_cases h : k' = k
    · simp [put, h]
    · simp only [put, h, if_false, List.map_cons, ih, List.mem_cons, Ne.symm h, false_or]
      split <;> rfl

/-- A key that is not there is added at the end. -/
theorem put_of_not_mem {k : κ} {es : List (κ × α)} (h : k ∉ es.map Prod.fst) (v : α) : put k v es = es ++ [(k, v)] := by
  induction es with
  | nil => rfl
  | cons e es ih =>
    obtain ⟨k', v'⟩ := e
    simp only [List.map_cons, List.mem_cons, not_or] at h
    rw [put, if_neg (Ne.symm h.1), ih h.2, List.cons_append]

/-- In a list of entries with different keys, each key is added at the end of those before it. -/
theorem put_of_nodup {k : κ} {v : α} {es es' : List (κ × α)} (h : ((es ++ (k, v) :: es').map Prod.fst).Nodup) :
    put k v es = es ++ [(k, v)] := by
  refine put_of_not_mem ?_ v
  rw [List.map_append, List.nodup_append] at h
  intro hmem
  exact h.2.2 k hmem k List.mem_cons_self rfl

/-- No key is there twice. -/
theorem nodup_put {k : κ} {es : List (κ × α)} (h : (es.map Prod.fst).Nodup) (v : α) :
    ((put k v es).map Prod.fst).Nodup := by
  rw [keys_put]
  split
  · exact h
  · rename_i hk
    rw [List.nodup_append]
    refine ⟨h, List.nodup_singleton k, ?_⟩
    rintro a ha b hb rfl
    exact hk (List.mem_singleton.mp hb ▸ ha)

/-- The value of a key, if it is there. -/
def get (m : OrderedMap κ α) (k : κ) : Option α := find k m.entries

/-- Set the value of a key. -/
def set (m : OrderedMap κ α) (k : κ) (v : α) : OrderedMap κ α := ⟨put k v m.entries, nodup_put m.nodup v⟩

@[simp] theorem get_empty (k : κ) : (empty : OrderedMap κ α).get k = none := rfl

@[simp] theorem get_set_self (m : OrderedMap κ α) (k : κ) (v : α) : (m.set k v).get k = some v :=
  find_put_self k v m.entries

/-- Setting a key changes no other. -/
theorem get_set_of_ne (m : OrderedMap κ α) {k j : κ} (h : j ≠ k) (v : α) : (m.set k v).get j = m.get j :=
  find_put_of_ne h v m.entries

/-- Read as a function with a default, setting a key is the update of the function. -/
theorem getD_set (m : OrderedMap κ α) (k : κ) (v default : α) :
    (fun j => ((m.set k v).get j).getD default) = Function.update (fun j => (m.get j).getD default) k v := by
  funext j
  by_cases h : j = k
  · subst h
    simp
  · simp [Function.update_of_ne h, m.get_set_of_ne h]

/-- The keys after setting one: those before, and that one. -/
theorem mem_keys_set {m : OrderedMap κ α} {k j : κ} {v : α} : j ∈ (m.set k v).keys ↔ j ∈ m.keys ∨ j = k := by
  have h := keys_put k v m.entries
  unfold keys set
  rw [h]
  split
  · rename_i hk
    constructor
    · exact Or.inl
    · intro hor
      rcases hor with hj | rfl
      · exact hj
      · exact hk
  · rw [List.mem_append, List.mem_singleton]

/-- Setting a key that is there keeps the list of keys. -/
theorem keys_set_of_mem {m : OrderedMap κ α} {k : κ} (h : k ∈ m.keys) (v : α) : (m.set k v).keys = m.keys :=
  (keys_put k v m.entries).trans (if_pos h)

end OrderedMap
