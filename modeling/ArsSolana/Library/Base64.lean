import Mathlib

/-!
# Base64, read leniently

The reader of a scripting language: characters outside the alphabet are skipped, and padding ends the text where it completes a
group of four. `decode` goes through the text once, as the loop of the C implementation does; `encode` writes padded text, and
what is written is read back.
-/

namespace Base64

inductive DecodeError where
  /-- One character is left over, after so many. -/
  | lengthOneMore (characters : Nat)
  | incorrectPadding
  deriving DecidableEq, Repr

/-- The six bits a character stands for. -/
def value (c : UInt8) : Option Nat :=
  if 65 ≤ c ∧ c ≤ 90 then some (c.toNat - 65)
  else if 97 ≤ c ∧ c ≤ 122 then some (c.toNat - 71)
  else if 48 ≤ c ∧ c ≤ 57 then some (c.toNat + 4)
  else if c = 43 then some 62
  else if c = 47 then some 63
  else none

/-- The character of six bits. -/
def character (v : Nat) : UInt8 :=
  if v < 26 then UInt8.ofNat (v + 65)
  else if v < 52 then UInt8.ofNat (v + 71)
  else if v < 62 then UInt8.ofNat (v - 4)
  else if v = 62 then 43
  else 47

/-- Where the reader is in a group of four characters, with the bits of the last character not yet written. -/
inductive Position where
  | first
  | second (left : Nat)
  | third (left : Nat)
  | fourth (left : Nat)
  deriving DecidableEq, Repr

/-- How many characters of the group are read. -/
def Position.index : Position → Nat
  | first => 0
  | second _ => 1
  | third _ => 2
  | fourth _ => 3

/-- Read on, with the number of padding characters since the last one of the alphabet and the bytes written so far, the latest
first. -/
def read : Position → Nat → List UInt8 → List UInt8 → Except DecodeError (List UInt8)
  | position, _, written, [] =>
    match position with
    | .first => .ok written.reverse
    | .second _ => .error (.lengthOneMore (written.length / 3 * 4 + 1))
    | _ => .error .incorrectPadding
  | position, pads, written, c :: text =>
    if c = 61 then
      if 2 ≤ position.index then
        -- the padding completes the group: nothing after it is read
        if 4 ≤ position.index + (pads + 1) then .ok written.reverse
        else read position (pads + 1) written text
      else read position pads written text
    else
      match value c with
      | none => read position pads written text
      | some v =>
        match position with
        | .first => read (.second v) 0 written text
        | .second left => read (.third (v % 16)) 0 (UInt8.ofNat (left * 4 + v / 16) :: written) text
        | .third left => read (.fourth (v % 4)) 0 (UInt8.ofNat (left * 16 + v / 4) :: written) text
        | .fourth left => read .first 0 (UInt8.ofNat (left * 64 + v) :: written) text

def decode (text : List UInt8) : Except DecodeError (List UInt8) := read .first 0 [] text

/-- Three bytes as four characters, the last ones padded. -/
def encode : List UInt8 → List UInt8
  | a :: b :: c :: rest =>
    character (a.toNat / 4) :: character (a.toNat % 4 * 16 + b.toNat / 16) :: character (b.toNat % 16 * 4 + c.toNat / 64) ::
      character (c.toNat % 64) :: encode rest
  | [a, b] =>
    [character (a.toNat / 4), character (a.toNat % 4 * 16 + b.toNat / 16), character (b.toNat % 16 * 4), 61]
  | [a] => [character (a.toNat / 4), character (a.toNat % 4 * 16), 61, 61]
  | [] => []

/-! ## What is written is read back -/

/-- The character of a six-bit value is no padding, and is read as that value. -/
theorem character_spec : ∀ v < 64, character v ≠ 61 ∧ value (character v) = some v := by decide +kernel

/-! A character of the alphabet is not padding and stands for its six bits, in each position of its group. -/

/-- The first character of a quantum is kept. -/
theorem read_first {v : Nat} (h : v < 64) (pads : Nat) (written text : List UInt8) :
    read .first pads written (character v :: text) = read (.second v) 0 written text := by
  obtain ⟨hne, hv⟩ := character_spec v h
  simp only [read, hne, if_false, hv]

/-- The second completes a byte and leaves four bits. -/
theorem read_second {v : Nat} (h : v < 64) (left pads : Nat) (written text : List UInt8) :
    read (.second left) pads written (character v :: text) =
      read (.third (v % 16)) 0 (UInt8.ofNat (left * 4 + v / 16) :: written) text := by
  obtain ⟨hne, hv⟩ := character_spec v h
  simp only [read, hne, if_false, hv]

/-- The third completes a byte and leaves two bits. -/
theorem read_third {v : Nat} (h : v < 64) (left pads : Nat) (written text : List UInt8) :
    read (.third left) pads written (character v :: text) =
      read (.fourth (v % 4)) 0 (UInt8.ofNat (left * 16 + v / 4) :: written) text := by
  obtain ⟨hne, hv⟩ := character_spec v h
  simp only [read, hne, if_false, hv]

/-- The fourth completes the quantum. -/
theorem read_fourth {v : Nat} (h : v < 64) (left pads : Nat) (written text : List UInt8) :
    read (.fourth left) pads written (character v :: text) = read .first 0 (UInt8.ofNat (left * 64 + v) :: written) text := by
  obtain ⟨hne, hv⟩ := character_spec v h
  simp only [read, hne, if_false, hv]

theorem ofNat_eq {n : Nat} {b : UInt8} (h : n = b.toNat) : UInt8.ofNat n = b := by
  rw [h, UInt8.ofNat_toNat]

/-- Reading what was encoded appends the bytes to those written before. -/
theorem read_encode (bytes written : List UInt8) :
    read .first 0 written (encode bytes) = .ok (written.reverse ++ bytes) := by
  induction bytes using encode.induct generalizing written with
  | case1 a b c rest ih =>
    have ha : a.toNat < 256 := a.toNat_lt
    have hb : b.toNat < 256 := b.toNat_lt
    have hc : c.toNat < 256 := c.toNat_lt
    have h₁ : UInt8.ofNat (a.toNat / 4 * 4 + (a.toNat % 4 * 16 + b.toNat / 16) / 16) = a := ofNat_eq (by omega)
    have h₂ : UInt8.ofNat ((a.toNat % 4 * 16 + b.toNat / 16) % 16 * 16 + (b.toNat % 16 * 4 + c.toNat / 64) / 4) = b :=
      ofNat_eq (by omega)
    have h₃ : UInt8.ofNat ((b.toNat % 16 * 4 + c.toNat / 64) % 4 * 64 + c.toNat % 64) = c := ofNat_eq (by omega)
    rw [encode, read_first (by omega), read_second (by omega), read_third (by omega), read_fourth (by omega), ih, h₁, h₂, h₃]
    simp
  | case2 a b =>
    have ha : a.toNat < 256 := a.toNat_lt
    have hb : b.toNat < 256 := b.toNat_lt
    have h₁ : UInt8.ofNat (a.toNat / 4 * 4 + (a.toNat % 4 * 16 + b.toNat / 16) / 16) = a := ofNat_eq (by omega)
    have h₂ : UInt8.ofNat ((a.toNat % 4 * 16 + b.toNat / 16) % 16 * 16 + b.toNat % 16 * 4 / 4) = b := ofNat_eq (by omega)
    rw [encode, read_first (by omega), read_second (by omega), read_third (by omega), h₁, h₂]
    simp [read, Position.index]
  | case3 a =>
    have ha : a.toNat < 256 := a.toNat_lt
    have h₁ : UInt8.ofNat (a.toNat / 4 * 4 + a.toNat % 4 * 16 / 16) = a := ofNat_eq (by omega)
    rw [encode, read_first (by omega), read_second (by omega), h₁]
    simp [read, Position.index]
  | case4 => simp [encode, read]

/-- The characters are ASCII. -/
theorem character_ascii : ∀ v < 64, (character v).toNat < 128 := by decide +kernel

/-- So is what is encoded. -/
theorem encode_ascii (bytes : List UInt8) : ∀ c ∈ encode bytes, c.toNat < 128 := by
  induction bytes using encode.induct with
  | case1 a b c rest ih =>
    have ha : a.toNat < 256 := a.toNat_lt
    have hb : b.toNat < 256 := b.toNat_lt
    have hc : c.toNat < 256 := c.toNat_lt
    simp only [encode, List.forall_mem_cons]
    exact ⟨character_ascii _ (by omega), character_ascii _ (by omega), character_ascii _ (by omega),
      character_ascii _ (by omega), ih⟩
  | case2 a b =>
    have ha : a.toNat < 256 := a.toNat_lt
    have hb : b.toNat < 256 := b.toNat_lt
    simp only [encode, List.forall_mem_cons]
    exact ⟨character_ascii _ (by omega), character_ascii _ (by omega), character_ascii _ (by omega), by decide, nofun⟩
  | case3 a =>
    have ha : a.toNat < 256 := a.toNat_lt
    simp only [encode, List.forall_mem_cons]
    exact ⟨character_ascii _ (by omega), character_ascii _ (by omega), by decide, by decide, nofun⟩
  | case4 => nofun

/-- What was encoded is decoded. -/
theorem decode_encode (bytes : List UInt8) : decode (encode bytes) = .ok bytes := read_encode bytes []

end Base64
