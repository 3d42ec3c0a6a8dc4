import Mathlib

/-!
# Integers as bytes

Fixed-width little-endian integers and the length-prefixed reading of them. `toLE n v` is what `int.to_bytes(n, "little")` returns
for `0 ≤ v < 256 ^ n`.
-/

namespace Bytes

/-- The `n` lowest bytes of a number, the lowest first. -/
def toLE : Nat → Nat → List UInt8
  | 0, _ => []
  | n + 1, v => UInt8.ofNat v :: toLE n (v / 256)

/-- The number whose bytes these are, the lowest first. -/
def ofLE : List UInt8 → Nat
  | [] => 0
  | b :: bs => b.toNat + 256 * ofLE bs

/-- The number whose bytes these are, the highest first. -/
def ofBE (bs : List UInt8) : Nat := ofLE bs.reverse

/-- The `n` lowest bytes of a number, the highest first. -/
def toBE (n v : Nat) : List UInt8 := (toLE n v).reverse

@[simp] theorem length_toLE (n v : Nat) : (toLE n v).length = n := by
  induction n generalizing v with
  | zero => rfl
  | succ n ih => simp only [toLE, List.length_cons, ih]

@[simp] theorem length_toBE (n v : Nat) : (toBE n v).length = n := by
  rw [toBE, List.length_reverse, length_toLE]

/-- The number of `n` bytes is below `256 ^ n`. -/
theorem ofLE_lt (bs : List UInt8) : ofLE bs < 256 ^ bs.length := by
  induction bs with
  | nil => simp [ofLE]
  | cons b bs ih =>
    have hb : b.toNat < 256 := b.toNat_lt
    have hpow : 256 ^ (b :: bs).length = 256 * 256 ^ bs.length := by rw [List.length_cons, Nat.pow_succ, Nat.mul_comm]
    rw [ofLE, hpow]
    omega

/-- Writing a number and reading it back keeps its `n` lowest bytes. -/
theorem ofLE_toLE (n v : Nat) : ofLE (toLE n v) = v % 256 ^ n := by
  induction n generalizing v with
  | zero => simp [toLE, ofLE, Nat.mod_one]
  | succ n ih =>
    have hb : (UInt8.ofNat v).toNat = v % 256 := UInt8.toNat_ofNat'
    rw [toLE, ofLE, ih, hb, Nat.pow_succ, Nat.mul_comm (256 ^ n), Nat.mod_mul]

/-- A number of `n` bytes is read back. -/
theorem ofLE_toLE_of_lt {n v : Nat} (h : v < 256 ^ n) : ofLE (toLE n v) = v := by
  rw [ofLE_toLE, Nat.mod_eq_of_lt h]

/-! ## Reading -/

/-- Take an `n`-byte little-endian integer off the front. -/
def readLE (n : Nat) (bs : List UInt8) : Option (Nat × List UInt8) :=
  if n ≤ bs.length then some (ofLE (bs.take n), bs.drop n) else none

/-- What was written is taken off the front, and the rest is left. -/
theorem readLE_append {n v : Nat} (h : v < 256 ^ n) (rest : List UInt8) :
    readLE n (toLE n v ++ rest) = some (v, rest) := by
  have hle : n ≤ (toLE n v ++ rest).length := by
    rw [List.length_append, length_toLE]
    omega
  have htake : (toLE n v ++ rest).take n = toLE n v := by simp
  have hdrop : (toLE n v ++ rest).drop n = rest := by simp
  rw [readLE, if_pos hle, htake, hdrop, ofLE_toLE_of_lt h]

/-! ## Hexadecimal -/

def hexDigit (n : Nat) : Char := "0123456789abcdef".toList.getD n '0'

/-- Two digits a byte, the higher first. -/
def hex (bs : List UInt8) : String :=
  String.ofList (bs.flatMap fun b => [hexDigit (b.toNat / 16), hexDigit (b.toNat % 16)])

/-- Two digits have two characters. -/
theorem hexDigit_injective : ∀ m < 16, ∀ n < 16, hexDigit m = hexDigit n → m = n := by
  decide

/-- Bytes are known by their hexadecimal text. -/
theorem hex_injective : Function.Injective hex := by
  intro as bs h
  have hdigits := String.ofList_injective h
  clear h
  induction as generalizing bs with
  | nil => cases bs <;> simp_all
  | cons a as ih =>
    cases bs with
    | nil => simp at hdigits
    | cons b bs =>
      simp only [List.flatMap_cons, List.cons_append, List.nil_append, List.cons.injEq] at hdigits
      obtain ⟨hhigh, hlow, hrest⟩ := hdigits
      have ha : a.toNat < 256 := a.toNat_lt
      have hb : b.toNat < 256 := b.toNat_lt
      have hhigh' := hexDigit_injective _ (by omega) _ (by omega) hhigh
      have hlow' := hexDigit_injective _ (by omega) _ (by omega) hlow
      have hab : a = b := UInt8.toNat_inj.mp (by omega)
      rw [hab, ih hrest]

end Bytes
