import ArsSolana.Library.Python.Record

/-!
# `json.dumps` with `sort_keys`

The writer takes the entries of every dictionary in the order of their keys. The document says the same: a key has the value it
had, and what was plain stays plain.
-/

namespace Py

/-! ## Entries in another order -/

/-- In a dictionary a key is looked up by its entry, wherever it stands. -/
theorem get_of_mem {entries : List (Str × Value)} (hnodup : (entries.map Prod.fst).Nodup) {key : String} {v : Value}
    (h : (Str.ofString key, v) ∈ entries) : get entries key = v := by
  have hfind : entries.find? (fun e => e.1 = Str.ofString key) = some (Str.ofString key, v) := by
    induction entries with
    | nil => cases h
    | cons e entries ih =>
      rw [List.map_cons, List.nodup_cons] at hnodup
      rcases List.mem_cons.mp h with rfl | hmem
      · simp
      · have hne : e.1 ≠ Str.ofString key := by
          intro he
          exact hnodup.1 (List.mem_map.mpr ⟨_, hmem, he.symm⟩)
        rw [List.find?_cons_of_neg (by simpa using hne), ih hnodup.2 hmem]
  rw [get, hfind]
  rfl

/-- A key that is not there has no value. -/
theorem get_of_not_mem {entries : List (Str × Value)} {key : String} (h : Str.ofString key ∉ entries.map Prod.fst) :
    get entries key = .none := by
  have hfind : entries.find? (fun e => e.1 = Str.ofString key) = none := by
    rw [List.find?_eq_none]
    intro e he hkey
    exact h (List.mem_map.mpr ⟨e, he, of_decide_eq_true hkey⟩)
  rw [get, hfind]
  rfl

/-- The order of the entries is of no account. -/
theorem get_perm {entries entries' : List (Str × Value)} (hnodup : (entries.map Prod.fst).Nodup)
    (hperm : entries'.Perm entries) (key : String) : get entries' key = get entries key := by
  have hkeys : (entries'.map Prod.fst).Perm (entries.map Prod.fst) := hperm.map Prod.fst
  by_cases hkey : Str.ofString key ∈ entries.map Prod.fst
  · obtain ⟨⟨_, v⟩, he, rfl⟩ := List.mem_map.mp hkey
    rw [get_of_mem hnodup he, get_of_mem (hkeys.nodup_iff.mpr hnodup) (hperm.mem_iff.mpr he)]
  · rw [get_of_not_mem hkey, get_of_not_mem (mt hkeys.mem_iff.mp hkey)]

namespace Json

/-! ## Sorted documents -/

mutual

/-- The document with the entries of every dictionary in the order of their keys. -/
def sortKeys : Value → Value
  | .list items => .list (sortItems items)
  | .dict entries => .dict ((sortEntries entries).insertionSort fun e e' => e.1 ≤ e'.1)
  | v => v

/-- Each item sorted, in the order they had. -/
def sortItems : List Value → List Value
  | [] => []
  | v :: items => sortKeys v :: sortItems items

/-- Each value sorted, in the order they had. -/
def sortEntries : List (Str × Value) → List (Str × Value)
  | [] => []
  | (key, v) :: entries => (key, sortKeys v) :: sortEntries entries

end

/-- Sorting goes into the items of a list, whose order stays. -/
theorem sortItems_eq (items : List Value) : sortItems items = items.map sortKeys := by
  induction items with
  | nil => simp [sortItems]
  | cons v items ih => simp [sortItems, ih]

/-- Sorting goes into the values of a dictionary. -/
theorem sortEntries_eq (entries : List (Str × Value)) : sortEntries entries = entries.map fun e => (e.1, sortKeys e.2) := by
  induction entries with
  | nil => simp [sortEntries]
  | cons e entries ih => simp [sortEntries, ih]

/-- Sorting what is in the values leaves the keys. -/
theorem keys_sortEntries (entries : List (Str × Value)) : (sortEntries entries).map Prod.fst = entries.map Prod.fst := by
  rw [sortEntries_eq, List.map_map]
  rfl

/-- `json.dumps(v, indent=indent, sort_keys=True)`. -/
def dumpsSorted (py : Interpreter) (indent : Option Nat) (v : Value) : Except Exception Str :=
  dumps py indent (sortKeys v)

/-- A plain document stays plain. -/
theorem Plain.sortKeys {depth : Nat} {v : Value} (h : Plain depth v) : Plain depth (sortKeys v) := by
  induction h with
  | none => exact .none
  | bool b => exact .bool b
  | int n => exact .int n
  | str hs => exact .str hs
  | list _ ih =>
    refine .list ?_
    rw [sortItems_eq]
    intro v hv
    obtain ⟨item, hitem, rfl⟩ := List.mem_map.mp hv
    exact ih item hitem
  | @dict depth entries hnodup hwhole _ ih =>
    have hperm := List.perm_insertionSort (fun e e' : Str × Value => e.1 ≤ e'.1) (sortEntries entries)
    refine .dict ?_ ?_ ?_
    · rw [(hperm.map Prod.fst).nodup_iff, keys_sortEntries]
      exact hnodup
    · intro e he
      rw [hperm.mem_iff, sortEntries_eq] at he
      obtain ⟨entry, hentry, rfl⟩ := List.mem_map.mp he
      exact hwhole entry hentry
    · intro e he
      rw [hperm.mem_iff, sortEntries_eq] at he
      obtain ⟨entry, hentry, rfl⟩ := List.mem_map.mp he
      exact ih entry hentry

end Json

/-! ## Sorted records -/

/-- The entries of a sorted record. -/
def sortedEntries (fields : List (String × Value)) : List (Str × Value) :=
  (Json.sortEntries (entries fields)).insertionSort fun e e' => e.1 ≤ e'.1

/-- A record of flat fields is sorted by its field names. -/
theorem sortKeys_record (fields : List (String × Value)) : Json.sortKeys (record fields) = .dict (sortedEntries fields) := by
  rw [record, Json.sortKeys, sortedEntries]

/-- A sorted record has the fields it had. -/
theorem get_sortedEntries {fields : List (String × Value)} (hkeys : (fields.map Prod.fst).Nodup) (key : String) :
    get (sortedEntries fields) key = Json.sortKeys (get (entries fields) key) := by
  have hnodup : ((Json.sortEntries (entries fields)).map Prod.fst).Nodup := by
    rw [Json.keys_sortEntries, keys_entries]
    exact hkeys.map Str.ofString_injective
  rw [sortedEntries, get_perm hnodup (List.perm_insertionSort _ _), Json.sortEntries_eq, get, get, List.find?_map]
  simp only [Function.comp_def]
  cases (entries fields).find? fun e => e.1 = Str.ofString key with
  | none => simp [Json.sortKeys]
  | some e => simp

end Py
