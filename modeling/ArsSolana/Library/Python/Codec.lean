import ArsSolana.Library.Base64
import ArsSolana.Library.Python.Value

/-!
# Bytes and text

`bytes.decode("utf-8")`, which refuses what is not well-formed, and `base64.b64decode` of a `str`.
-/

namespace Py

/-! ## UTF-8 -/

/-- A byte of this range. -/
def inRange (low high : UInt8) (b : UInt8) : Bool := low ≤ b ∧ b ≤ high

/-- The bytes that may follow a leading byte of three or four: the others would spell a shorter form, a surrogate or too large a
code point. -/
def secondByte (lead : UInt8) : UInt8 → Bool :=
  if lead = 0xE0 then inRange 0xA0 0xBF
  else if lead = 0xED then inRange 0x80 0x9F
  else if lead = 0xF0 then inRange 0x90 0xBF
  else if lead = 0xF4 then inRange 0x80 0x8F
  else inRange 0x80 0xBF

/-- The code point of a leading byte, without its marks, and the bytes after it. -/
def codePoint (lead : Nat) (rest : List UInt8) : CodePoint :=
  Fin.ofNat _ (rest.foldl (fun n b => 64 * n + b.toNat % 64) lead)

/-- The characters of well-formed bytes. -/
def utf8Chars : List UInt8 → Option Str
  | [] => some []
  | a :: rest =>
    if a < 0x80 then (codePoint a.toNat [] :: ·) <$> utf8Chars rest
    else if inRange 0xC2 0xDF a then
      match rest with
      | b :: rest => if inRange 0x80 0xBF b then (codePoint (a.toNat % 32) [b] :: ·) <$> utf8Chars rest else none
      | _ => none
    else if inRange 0xE0 0xEF a then
      match rest with
      | b :: c :: rest =>
        if secondByte a b ∧ inRange 0x80 0xBF c then (codePoint (a.toNat % 16) [b, c] :: ·) <$> utf8Chars rest else none
      | _ => none
    else if inRange 0xF0 0xF4 a then
      match rest with
      | b :: c :: d :: rest =>
        if secondByte a b ∧ inRange 0x80 0xBF c ∧ inRange 0x80 0xBF d then
          (codePoint (a.toNat % 8) [b, c, d] :: ·) <$> utf8Chars rest
        else none
      | _ => none
    else none

/-- `bytes.decode("utf-8")`. -/
def Interpreter.decodeUtf8 (py : Interpreter) (bytes : List UInt8) : Except Exception Str :=
  match utf8Chars bytes with
  | some s => .ok s
  | none => .error ⟨.other "UnicodeDecodeError", py.utf8ErrorText bytes⟩

/-- The character of a code point, none for a surrogate. -/
def CodePoint.char? (c : CodePoint) : Option Char := if h : c.val.isValidChar then some (Char.ofNatAux c.val h) else none

/-- The text of a `UnicodeEncodeError`: the first surrogate, or the place of the surrogates that stand together with it. -/
def encodeErrorText (s : Str) : String :=
  let start := s.findIdx fun c => c.char?.isNone
  let length := ((s.drop start).takeWhile fun c => c.char?.isNone).length
  if length = 1 then
    let digits := String.ofList (Nat.toDigits 16 (s.getD start 0).val)
    s!"'utf-8' codec can't encode character '\\u{digits}' in position {start}: surrogates not allowed"
  else s!"'utf-8' codec can't encode characters in position {start}-{start + length - 1}: surrogates not allowed"

/-- The bytes of characters. -/
def utf8Bytes (chars : List Char) : List UInt8 := chars.flatMap String.utf8EncodeChar

/-- `s.encode("utf-8")`. -/
def encodeUtf8 (s : Str) : Except Exception (List UInt8) :=
  match s.mapM CodePoint.char? with
  | some chars => .ok (utf8Bytes chars)
  | none => .error ⟨.other "UnicodeEncodeError", encodeErrorText s⟩

/-- Characters are known by their bytes. -/
theorem utf8Bytes_injective : Function.Injective utf8Bytes := by
  intro as bs h
  have hbytes : as.utf8Encode = bs.utf8Encode := congrArg List.toByteArray h
  have hdecode := congrArg ByteArray.utf8Decode? hbytes
  rw [List.utf8Decode?_utf8Encode, List.utf8Decode?_utf8Encode] at hdecode
  exact congrArg Array.toList (Option.some.inj hdecode)

/-- The code point of a character read off a code point. -/
theorem CodePoint.ofChar_of_char? {c : CodePoint} {char : Char} (h : c.char? = some char) : CodePoint.ofChar char = c := by
  unfold CodePoint.char? at h
  split at h
  · cases h
    rfl
  · cases h

/-- Text that can be encoded is text of characters. -/
theorem encodeUtf8_ok {s : Str} {bytes : List UInt8} (h : encodeUtf8 s = .ok bytes) :
    ∃ chars, s = chars.map CodePoint.ofChar ∧ bytes = utf8Bytes chars := by
  unfold encodeUtf8 at h
  cases hchars : s.mapM CodePoint.char? with
  | none =>
    rw [hchars] at h
    cases h
  | some chars =>
    rw [hchars] at h
    cases h
    refine ⟨chars, ?_, rfl⟩
    induction s generalizing chars with
    | nil =>
      cases hchars
      rfl
    | cons c s ih =>
      simp only [List.mapM_cons, Option.pure_def, Option.bind_eq_bind, Option.bind_eq_some_iff, Option.some.injEq] at hchars
      obtain ⟨char, hchar, chars, hrest, rfl⟩ := hchars
      rw [List.map_cons, CodePoint.ofChar_of_char? hchar, ← ih chars hrest]

theorem CodePoint.char?_ofChar (char : Char) : (CodePoint.ofChar char).char? = some char := by
  have hvalid : (CodePoint.ofChar char).val.isValidChar := by
    have h := char.valid
    simp only [UInt32.isValidChar] at h
    exact h
  rw [CodePoint.char?, dif_pos hvalid]
  rfl

/-- Text of characters is read character by character. -/
theorem mapM_char? (chars : List Char) : (chars.map CodePoint.ofChar).mapM CodePoint.char? = some chars := by
  induction chars with
  | nil => rfl
  | cons char chars ih => simp [CodePoint.char?_ofChar, ih]

/-- Text of characters can be encoded. -/
theorem encodeUtf8_ofChars (chars : List Char) : encodeUtf8 (chars.map CodePoint.ofChar) = .ok (utf8Bytes chars) := by
  rw [encodeUtf8, mapM_char?]

/-- Text can be encoded exactly when it is text of characters. -/
theorem encodeUtf8_isOk_iff {s : Str} :
    (∃ bytes, encodeUtf8 s = .ok bytes) ↔ ∃ chars : List Char, s = chars.map CodePoint.ofChar := by
  constructor
  · rintro ⟨bytes, h⟩
    obtain ⟨chars, hs, -⟩ := encodeUtf8_ok h
    exact ⟨chars, hs⟩
  · rintro ⟨chars, rfl⟩
    exact ⟨_, encodeUtf8_ofChars chars⟩

/-- Text is known by its encoding. -/
theorem encodeUtf8_injective {s t : Str} {bytes : List UInt8} (hs : encodeUtf8 s = .ok bytes)
    (ht : encodeUtf8 t = .ok bytes) : s = t := by
  obtain ⟨chars, rfl, hchars⟩ := encodeUtf8_ok hs
  obtain ⟨chars', rfl, hchars'⟩ := encodeUtf8_ok ht
  rw [utf8Bytes_injective (hchars.symm.trans hchars')]

/-! ## Decimal text -/

theorem utf8Bytes_append (as bs : List Char) : utf8Bytes (as ++ bs) = utf8Bytes as ++ utf8Bytes bs := List.flatMap_append

/-- A byte of a decimal number: a minus sign or a digit. -/
def IsDecimal (b : UInt8) : Prop := b = 0x2D ∨ 0x30 ≤ b ∧ b ≤ 0x39

/-- A digit is one byte. -/
theorem isDecimal_of_isDigit {c : Char} (h : c.isDigit = true) : ∀ b ∈ String.utf8EncodeChar c, IsDecimal b := by
  have hrange : 48 ≤ c.val.toNat ∧ c.val.toNat ≤ 57 := Char.isDigit_iff_toNat.mp h
  have hascii : String.utf8EncodeChar c = [UInt8.ofNat c.val.toNat] := if_pos (by omega)
  intro b hb
  rw [hascii, List.mem_singleton] at hb
  subst hb
  refine Or.inr ⟨?_, ?_⟩
  · rw [UInt8.le_iff_toNat_le, UInt8.toNat_ofNat']
    have h48 : (0x30 : UInt8).toNat = 48 := rfl
    omega
  · rw [UInt8.le_iff_toNat_le, UInt8.toNat_ofNat']
    have h57 : (0x39 : UInt8).toNat = 57 := rfl
    omega

/-- The text of a number has digits only. -/
theorem isDecimal_repr (n : Nat) : ∀ b ∈ utf8Bytes n.repr.toList, IsDecimal b := by
  intro b hb
  unfold utf8Bytes at hb
  rw [Nat.toList_repr, List.mem_flatMap] at hb
  obtain ⟨c, hc, hb⟩ := hb
  exact isDecimal_of_isDigit (Nat.isDigit_of_mem_toDigits (by decide) (by decide) hc) b hb

/-- The text of an integer has decimal bytes only. -/
theorem isDecimal_toString (n : Int) : ∀ b ∈ utf8Bytes (toString n).toList, IsDecimal b := by
  cases n with
  | ofNat n => exact isDecimal_repr n
  | negSucc n =>
    have htext : toString (Int.negSucc n) = "-" ++ (n + 1).repr := rfl
    intro b hb
    rw [htext, String.toList_append, utf8Bytes_append, List.mem_append] at hb
    rcases hb with hb | hb
    · exact Or.inl (List.mem_singleton.mp hb)
    · exact isDecimal_repr (n + 1) b hb

/-! ## Base64 -/

/-- The text of a `binascii.Error`. -/
def base64ErrorText : Base64.DecodeError → String
  | .lengthOneMore characters =>
    s!"Invalid base64-encoded string: number of data characters ({characters}) cannot be 1 more than a multiple of 4"
  | .incorrectPadding => "Incorrect padding"

/-- `base64.b64decode(s)` of a `str`. -/
def b64decode (s : Str) : Except Exception (List UInt8) :=
  if s.all (·.val < 128) then
    match Base64.decode (s.map fun c => UInt8.ofNat c.val) with
    | .ok bytes => .ok bytes
    | .error e => .error ⟨.valueError, base64ErrorText e⟩
  else .error ⟨.valueError, "string argument should contain only ASCII characters"⟩

/-- `base64.b64encode(bytes).decode("ascii")`. -/
def b64encode (bytes : List UInt8) : Str := (Base64.encode bytes).map fun b => ⟨b.toNat, by have := b.toNat_lt; omega⟩

/-- Bytes come back from their base64 text. -/
theorem b64decode_b64encode (bytes : List UInt8) : b64decode (b64encode bytes) = .ok bytes := by
  have hascii : (b64encode bytes).all (·.val < 128) := by
    simpa [b64encode] using Base64.encode_ascii bytes
  have hmap : (b64encode bytes).map (fun c => UInt8.ofNat c.val) = Base64.encode bytes := by
    rw [b64encode, List.map_map]
    exact (List.map_congr_left fun b _ => UInt8.ofNat_toNat).trans (List.map_id _)
  rw [b64decode, if_pos hascii, hmap, Base64.decode_encode]

end Py
