import ArsSolana.Library.Bytes

/-!
# Base58

The text form of public keys: a one for each leading zero byte, then the digits of the number the bytes are, the highest first.
Reading and writing are inverse: bytes are read back from their text, and a text that is read is the text of its bytes.
-/

namespace Base58

/-- The digits, without the four that look alike. -/
def alphabet : List Char := "123456789ABCDEFGHJKLMNPQRSTUVWXYZabcdefghijkmnopqrstuvwxyz".toList

/-- The digits of a number in a base, the lowest first, at most as many as the first argument says. -/
def toDigits (base : Nat) : Nat → Nat → List Nat
  | 0, _ => []
  | fuel + 1, n => if n = 0 then [] else n % base :: toDigits base fuel (n / base)

def digitChar (d : Nat) : Char := alphabet.getD d '1'

/-- The digits of the text of some bytes. A byte takes less than two digits. -/
def digits (bs : List UInt8) : List Nat :=
  List.replicate (bs.takeWhile (· = 0)).length 0 ++ (toDigits 58 (2 * bs.length) (Bytes.ofBE bs)).reverse

def encode (bs : List UInt8) : String := String.ofList ((digits bs).map digitChar)

def decode (text : String) : Option (List UInt8) := do
  let ds ← text.toList.mapM fun c => alphabet.idxOf? c
  let bytes := toDigits 256 ds.length (Nat.ofDigits 58 ds.reverse)
  some (List.replicate (ds.takeWhile (· = 0)).length 0 ++ bytes.reverse.map UInt8.ofNat)

/-! ## Digits of a number -/

/-- With enough digits these are the digits of the number. -/
theorem toDigits_eq {base fuel n : Nat} (hb : 1 < base) (h : n < base ^ fuel) : toDigits base fuel n = Nat.digits base n := by
  induction fuel generalizing n with
  | zero =>
    rw [Nat.pow_zero] at h
    have hn : n = 0 := by omega
    simp [toDigits, hn]
  | succ fuel ih =>
    by_cases hn : n = 0
    · simp [toDigits, hn]
    · have hdiv : n / base < base ^ fuel := by
        rw [Nat.div_lt_iff_lt_mul (by omega), ← Nat.pow_succ]
        exact h
      rw [toDigits, if_neg hn, ih hdiv, ← Nat.digits_def' hb (by omega)]

/-! ## Zeros in front -/

section Leading

variable {α : Type} [DecidableEq α] {z : α}

/-- A list is its leading zeros and the rest. -/
theorem split_leading (z : α) (xs : List α) :
    xs = List.replicate (xs.takeWhile (· = z)).length z ++ xs.dropWhile (· = z) := by
  have hzeros : xs.takeWhile (· = z) = List.replicate (xs.takeWhile (· = z)).length z :=
    List.eq_replicate_iff.mpr ⟨rfl, fun x hx => by simpa using List.mem_takeWhile_imp hx⟩
  rw [← hzeros, List.takeWhile_append_dropWhile]

/-- What is left begins with another element. -/
theorem head_dropWhile_ne (z : α) (xs : List α) : ∀ x ∈ (xs.dropWhile (· = z)).head?, x ≠ z := by
  intro x hx
  have h := List.head?_dropWhile_not (fun x : α => decide (x = z)) xs
  rw [Option.mem_def.mp hx] at h
  simpa using h

/-- Zeros in front are all of the zeros in front, when what follows does not begin with one. -/
theorem takeWhile_leading {k : Nat} {xs : List α} (h : ∀ x ∈ xs.head?, x ≠ z) :
    (List.replicate k z ++ xs).takeWhile (fun x => decide (x = z)) = List.replicate k z := by
  rw [List.takeWhile_append_of_pos (by simp)]
  cases xs with
  | nil => simp
  | cons x xs => rw [List.takeWhile_cons_of_neg (by simpa using h), List.append_nil]

end Leading

/-- The number of some digits does not count the zeros in front. -/
theorem ofDigits_leading (base k : Nat) (ds : List Nat) :
    Nat.ofDigits base (List.replicate k 0 ++ ds).reverse = Nat.ofDigits base ds.reverse := by
  rw [List.reverse_append, Nat.ofDigits_append, List.reverse_replicate, Nat.ofDigits_replicate_zero, Nat.mul_zero, Nat.add_zero]

/-- Digits that do not begin with a zero are the digits of their number. -/
theorem digits_ofDigits_reverse {base : Nat} {ds : List Nat} (hb : 1 < base) (hlt : ∀ d ∈ ds, d < base)
    (h : ∀ d ∈ ds.head?, d ≠ 0) : (Nat.digits base (Nat.ofDigits base ds.reverse)).reverse = ds := by
  have hlast : ∀ hne : ds.reverse ≠ [], ds.reverse.getLast hne ≠ 0 := by
    intro hne
    cases ds with
    | nil => exact absurd rfl hne
    | cons d ds => simpa using h d rfl
  rw [Nat.digits_ofDigits base hb _ (fun d hd => hlt d (List.mem_reverse.mp hd)) hlast, List.reverse_reverse]

/-- The highest digit of a number is not zero. -/
theorem head_digits_ne_zero (base n : Nat) : ∀ d ∈ (Nat.digits base n).reverse.head?, d ≠ 0 := by
  intro d hd
  rw [List.head?_reverse] at hd
  have hne : Nat.digits base n ≠ [] := fun hnil => by simp [hnil] at hd
  have hn : n ≠ 0 := Nat.digits_ne_nil_iff_ne_zero.mp hne
  rw [List.getLast?_eq_some_getLast hne] at hd
  rw [← Option.some_inj.mp hd]
  exact Nat.getLast_digit_ne_zero base hn

/-! ## Bytes and their number -/

/-- Little-endian bytes are digits of base 256. -/
theorem ofLE_eq (bs : List UInt8) : Bytes.ofLE bs = Nat.ofDigits 256 (bs.map UInt8.toNat) := by
  induction bs with
  | nil => rfl
  | cons b bs ih => rw [Bytes.ofLE, ih, List.map_cons, Nat.ofDigits_cons]

/-- Big-endian bytes are the same digits in the other order. -/
theorem ofBE_eq (bs : List UInt8) : Bytes.ofBE bs = Nat.ofDigits 256 (bs.map UInt8.toNat).reverse := by
  rw [Bytes.ofBE, ofLE_eq, List.map_reverse]

theorem map_ofNat_toNat (bs : List UInt8) : (bs.map UInt8.toNat).map UInt8.ofNat = bs := by
  rw [List.map_map]
  exact (List.map_congr_left fun b _ => UInt8.ofNat_toNat).trans (List.map_id _)

theorem map_toNat_ofNat {ds : List Nat} (h : ∀ d ∈ ds, d < 256) : (ds.map UInt8.ofNat).map UInt8.toNat = ds := by
  rw [List.map_map]
  exact (List.map_congr_left fun d hd => UInt8.toNat_ofNat_of_lt (h d hd)).trans (List.map_id _)

/-- Bytes that do not begin with a zero are the digits of their number. -/
theorem digits_ofBE {bs : List UInt8} (h : ∀ b ∈ bs.head?, b ≠ 0) :
    (Nat.digits 256 (Bytes.ofBE bs)).reverse.map UInt8.ofNat = bs := by
  have hlt : ∀ d ∈ bs.map UInt8.toNat, d < 256 := by
    intro d hd
    obtain ⟨b, -, rfl⟩ := List.mem_map.mp hd
    exact b.toNat_lt
  have hhead : ∀ d ∈ (bs.map UInt8.toNat).head?, d ≠ 0 := by
    intro d hd hzero
    rw [List.head?_map] at hd
    obtain ⟨b, hb, rfl⟩ := Option.map_eq_some_iff.mp hd
    exact h b hb (UInt8.toNat_inj.mp hzero)
  rw [ofBE_eq, digits_ofDigits_reverse (by omega) hlt hhead, map_ofNat_toNat]

/-- Leading zero bytes do not change the number. -/
theorem ofBE_leading (k : Nat) (bs : List UInt8) : Bytes.ofBE (List.replicate k 0 ++ bs) = Bytes.ofBE bs := by
  rw [ofBE_eq, ofBE_eq, List.map_append, List.map_replicate, UInt8.toNat_zero, ofDigits_leading]

/-- The bytes that are the digits of a number have it as theirs, and do not begin with a zero. -/
theorem ofBE_digits (n : Nat) : Bytes.ofBE ((Nat.digits 256 n).reverse.map UInt8.ofNat) = n := by
  have hlt : ∀ d ∈ (Nat.digits 256 n).reverse, d < 256 := fun d hd => Nat.digits_lt_base (by omega) (List.mem_reverse.mp hd)
  rw [ofBE_eq, map_toNat_ofNat hlt, List.reverse_reverse, Nat.ofDigits_digits]

/-- The highest byte of a number is not zero. -/
theorem head_bytes_ne_zero (n : Nat) : ∀ b ∈ ((Nat.digits 256 n).reverse.map UInt8.ofNat).head?, b ≠ 0 := by
  intro b hb hzero
  rw [List.head?_map] at hb
  obtain ⟨d, hd, rfl⟩ := Option.map_eq_some_iff.mp hb
  have hlt : d < 256 := Nat.digits_lt_base (by omega) (List.mem_reverse.mp (List.mem_of_mem_head? hd))
  have hnat : (UInt8.ofNat d).toNat = d := UInt8.toNat_ofNat_of_lt hlt
  rw [hzero] at hnat
  exact head_digits_ne_zero 256 n d hd hnat.symm

/-! ## The digits of some bytes -/

/-- A byte takes less than two digits. -/
theorem ofBE_lt (bs : List UInt8) : Bytes.ofBE bs < 58 ^ (2 * bs.length) := by
  have h₁ : Bytes.ofBE bs < 256 ^ bs.length := by
    have h := Bytes.ofLE_lt bs.reverse
    rwa [List.length_reverse] at h
  have h₂ : 256 ^ bs.length ≤ 58 ^ (2 * bs.length) := by
    rw [Nat.pow_mul]
    exact Nat.pow_le_pow_left (by omega) _
  omega

/-- The digits of some bytes: a zero for each leading zero byte, and the digits of the number. -/
theorem digits_eq (bs : List UInt8) :
    digits bs = List.replicate (bs.takeWhile (· = 0)).length 0 ++ (Nat.digits 58 (Bytes.ofBE bs)).reverse := by
  rw [digits, toDigits_eq (by omega) (ofBE_lt bs)]

/-- The number of the digits is the number of the bytes. -/
theorem ofDigits_digits (bs : List UInt8) : Nat.ofDigits 58 (digits bs).reverse = Bytes.ofBE bs := by
  rw [digits_eq, ofDigits_leading, List.reverse_reverse, Nat.ofDigits_digits]

/-- The digits are below 58. -/
theorem digits_lt {bs : List UInt8} {d : Nat} (h : d ∈ digits bs) : d < 58 := by
  rw [digits_eq] at h
  rcases List.mem_append.mp h with h | h
  · rw [List.eq_of_mem_replicate h]
    omega
  · exact Nat.digits_lt_base (by omega) (List.mem_reverse.mp h)

/-! ## Digits and their characters -/

/-- Each digit is read back from its character. -/
theorem idxOf_digitChar : ∀ d < 58, alphabet.idxOf? (digitChar d) = some d := by decide +kernel

/-- So is a list of digits. -/
theorem mapM_digitChar {ds : List Nat} (h : ∀ d ∈ ds, d < 58) : (ds.map digitChar).mapM (fun c => alphabet.idxOf? c) = some ds := by
  induction ds with
  | nil => rfl
  | cons d ds ih =>
    have hd := idxOf_digitChar d (h d List.mem_cons_self)
    simp [hd, ih fun x hx => h x (List.mem_cons_of_mem d hx)]

/-- A character of the alphabet is the character of its digit. -/
theorem digitChar_idxOf {c : Char} {d : Nat} (h : alphabet.idxOf? c = some d) : digitChar d = c ∧ d < 58 := by
  obtain ⟨hlt, hc, -⟩ := List.idxOf?_eq_some_iff.mp h
  refine ⟨?_, hlt⟩
  rw [digitChar, List.getD_eq_getElem _ _ hlt, hc]

/-- Only the text of digits is read. -/
theorem of_mapM_idxOf {cs : List Char} {ds : List Nat} (h : cs.mapM (fun c => alphabet.idxOf? c) = some ds) :
    ds.map digitChar = cs ∧ ∀ d ∈ ds, d < 58 := by
  induction cs generalizing ds with
  | nil =>
    rw [List.mapM_nil] at h
    cases h
    exact ⟨rfl, by simp⟩
  | cons c cs ih =>
    rw [List.mapM_cons] at h
    obtain ⟨d, hd, h⟩ := Option.bind_eq_some_iff.mp h
    obtain ⟨ds', hds, h⟩ := Option.bind_eq_some_iff.mp h
    cases h
    obtain ⟨hc, hlt⟩ := digitChar_idxOf hd
    obtain ⟨hcs, hlts⟩ := ih hds
    exact ⟨by rw [List.map_cons, hc, hcs], List.forall_mem_cons.mpr ⟨hlt, hlts⟩⟩

/-! ## Writing and reading -/

/-- The bytes of a text whose digits are known: a zero byte for each leading zero, and the bytes of the number. -/
theorem decode_eq {text : String} {ds : List Nat} (h : text.toList.mapM (fun c => alphabet.idxOf? c) = some ds) :
    decode text = some (List.replicate (ds.takeWhile (· = 0)).length 0 ++
      (Nat.digits 256 (Nat.ofDigits 58 ds.reverse)).reverse.map UInt8.ofNat) := by
  -- A digit is less than a byte, so there is room for the bytes.
  have hroom : Nat.ofDigits 58 ds.reverse < 256 ^ ds.length := by
    have hlt := Nat.ofDigits_lt_base_pow_length (b := 58) (l := ds.reverse) (by omega)
      fun d hd => (of_mapM_idxOf h).2 d (List.mem_reverse.mp hd)
    rw [List.length_reverse] at hlt
    exact lt_of_lt_of_le hlt (Nat.pow_le_pow_left (by omega) _)
  rw [decode, h, ← toDigits_eq (by omega) hroom]
  rfl

/-- The text of some bytes says which they are. -/
theorem decode_encode (bs : List UInt8) : decode (encode bs) = some bs := by
  have hread : (encode bs).toList.mapM (fun c => alphabet.idxOf? c) = some (digits bs) := by
    rw [encode, String.toList_ofList, mapM_digitChar fun _ => digits_lt]
  have hzeros : (digits bs).takeWhile (fun d => decide (d = 0)) = List.replicate (bs.takeWhile (· = 0)).length 0 := by
    rw [digits_eq, takeWhile_leading (head_digits_ne_zero 58 _)]
  have hrest : Bytes.ofBE bs = Bytes.ofBE (bs.dropWhile (· = 0)) := by
    conv_lhs => rw [split_leading 0 bs, ofBE_leading]
  rw [decode_eq hread, hzeros, List.length_replicate, ofDigits_digits, hrest, digits_ofBE (head_dropWhile_ne 0 bs),
    ← split_leading]

/-- Bytes that differ have different texts. -/
theorem encode_injective : Function.Injective encode := by
  intro as bs h
  have has := decode_encode as
  rw [h, decode_encode] at has
  exact (Option.some.inj has).symm

/-- A text that is read is the text of the bytes it is read as. -/
theorem encode_decode {text : String} {bs : List UInt8} (h : decode text = some bs) : encode bs = text := by
  cases hread : text.toList.mapM (fun c => alphabet.idxOf? c) with
  | none =>
    rw [decode, hread] at h
    cases h
  | some ds =>
    obtain ⟨htext, hlt⟩ := of_mapM_idxOf hread
    rw [decode_eq hread] at h
    obtain rfl := Option.some.inj h
    have hrest : Nat.ofDigits 58 ds.reverse = Nat.ofDigits 58 (ds.dropWhile (· = 0)).reverse := by
      conv_lhs => rw [split_leading 0 ds, ofDigits_leading]
    have hdigits : (Nat.digits 58 (Nat.ofDigits 58 ds.reverse)).reverse = ds.dropWhile (· = 0) := by
      rw [hrest]
      exact digits_ofDigits_reverse (by omega) (fun d hd => hlt d (List.dropWhile_subset _ hd)) (head_dropWhile_ne 0 ds)
    rw [encode, digits_eq, takeWhile_leading (head_bytes_ne_zero _), List.length_replicate, ofBE_leading, ofBE_digits, hdigits,
      ← split_leading, htext, String.ofList_toList]

end Base58
