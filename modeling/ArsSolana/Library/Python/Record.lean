import ArsSolana.Library.Python.JsonBytes

/-!
# Dictionaries a program spells out

A dictionary with literal keys, as a JSON document and as what is read of one.
-/

namespace Py

/-! ## Literal text -/

/-- A character is known by its code point. -/
theorem CodePoint.ofChar_injective : Function.Injective CodePoint.ofChar := by
  intro a b h
  have hval : a.val.toNat = b.val.toNat := Fin.mk.inj h
  exact Char.ext (UInt32.toNat_inj.mp hval)

theorem Str.ofString_injective : Function.Injective Str.ofString := by
  intro a b h
  exact String.toList_inj.mp (List.map_injective_iff.mpr CodePoint.ofChar_injective h)

/-- The text as a `String`, none when there is half a character in it. -/
def Str.text? (s : Str) : Option String := String.ofList <$> s.mapM CodePoint.char?

/-- Text of characters is read back as text. -/
@[simp] theorem Str.text?_ofString (s : String) : (Str.ofString s).text? = some s := by
  rw [Str.text?, Str.ofString, mapM_char?]
  exact congrArg some String.ofList_toList

/-! ## Records -/

/-- Entries with literal keys. -/
def entries (fields : List (String × Value)) : List (Str × Value) := fields.map fun f => (Str.ofString f.1, f.2)

/-- A dictionary with literal keys. -/
def record (fields : List (String × Value)) : Value := .dict (entries fields)

/-- The keys of a record are its field names. -/
theorem keys_entries (fields : List (String × Value)) :
    (entries fields).map Prod.fst = (fields.map Prod.fst).map Str.ofString := by
  simp [entries, Function.comp_def]

/-- The value of a literal key is found among the fields. -/
theorem get_entries (fields : List (String × Value)) (key : String) :
    get (entries fields) key = ((fields.find? fun f => f.1 = key).map (·.2)).getD .none := by
  have hfind : (entries fields).find? (fun e => e.1 = Str.ofString key) =
      (fields.find? fun f => f.1 = key).map fun f => (Str.ofString f.1, f.2) := by
    rw [entries, List.find?_map]
    congr 1
    refine List.find?_congr fun f _ => ?_
    simp [Str.ofString_injective.eq_iff]
  rw [get, hfind, Option.map_map]
  rfl

namespace Json

/-- A record of plain values is plain. -/
theorem plain_record {depth : Nat} {fields : List (String × Value)} (hkeys : (fields.map Prod.fst).Nodup)
    (h : ∀ f ∈ fields, Plain depth f.2) : Plain (depth + 1) (record fields) := by
  refine .dict ?_ ?_ ?_
  · rw [keys_entries]
    exact hkeys.map Str.ofString_injective
  · intro e he
    obtain ⟨f, -, rfl⟩ := List.mem_map.mp he
    exact whole_ofString f.1
  · intro e he
    obtain ⟨f, hf, rfl⟩ := List.mem_map.mp he
    exact h f hf

end Json

end Py
