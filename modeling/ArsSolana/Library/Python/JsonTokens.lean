import ArsSolana.Library.Python.JsonWriter

/-!
# The reader along numbers and strings

The reader is followed along a text, from state to state. A string is complete at its closing quote, a number only at the character
behind it.
-/

namespace Py.Json

/-! ## Reading a text -/

section Feed

variable (py : Interpreter)

/-- The state after the characters of a text. -/
def feed (s : State) (text : Str) : Option State := text.foldlM (step py) s

end Feed

variable {py : Interpreter}

@[simp] theorem feed_nil (s : State) : feed py s [] = some s := rfl

theorem feed_cons {s t : State} {c : CodePoint} (h : step py s c = some t) (text : Str) :
    feed py s (c :: text) = feed py t text := by
  rw [feed, List.foldlM_cons, h]
  rfl

/-- Text in two parts: the reader goes on from where the first part took it. -/
theorem feed_append {s t : State} {as : Str} (h : feed py s as = some t) (bs : Str) :
    feed py s (as ++ bs) = feed py t bs := by
  rw [feed, List.foldlM_append]
  exact congrArg (· >>= _) h

/-- `loads` feeds the document from the state that waits for a value. -/
theorem loads_eq (doc : Str) :
    loads py doc =
      match (feed py ⟨.value false, []⟩ doc).bind (finish py) with
      | some v => .ok v
      | none => .error ⟨.other "JSONDecodeError", py.jsonErrorText doc⟩ := rfl

/-! ## Blanks -/

/-- A mode in which blanks are passed over. -/
def SkipsBlanks (py : Interpreter) (s : State) : Prop := ∀ c, isSpace c = true → step py s c = some s

/-- White space is skipped where a state skips it. -/
theorem feed_blanks {s : State} (h : SkipsBlanks py s) {text : Str} (hblank : ∀ c ∈ text, isSpace c = true) :
    feed py s text = some s := by
  induction text with
  | nil => rfl
  | cons c text ih =>
    rw [feed_cons (h c (hblank c List.mem_cons_self))]
    exact ih fun d hd => hblank d (List.mem_cons_of_mem c hd)

/-- White space may stand before a value. -/
theorem skipsBlanks_value (closable : Bool) (stack : List Frame) : SkipsBlanks py ⟨.value closable, stack⟩ := by
  intro c hc
  simp [step, hc]

/-- White space may stand before a key. -/
theorem skipsBlanks_key (entries : List (Str × Value)) (closable : Bool) (stack : List Frame) :
    SkipsBlanks py ⟨.key entries closable, stack⟩ := by
  intro c hc
  simp [step, hc]

/-- A new line with its indentation is white space. -/
theorem isSpace_newline (indent : Option Nat) (level : Nat) : ∀ c ∈ newline indent level, isSpace c = true := by
  cases indent with
  | none => simp [newline]
  | some n =>
    intro c hc
    rcases List.mem_cons.mp hc with rfl | hc
    · rfl
    · rw [List.eq_of_mem_replicate hc]
      rfl

/-! ## Complete values -/

/-- The value has been read; the character behind it may still be needed to end it. -/
inductive Ended (py : Interpreter) (v : Value) (stack : List Frame) : State → Prop
  | complete : Ended py v stack ⟨.complete v, stack⟩
  | number {part : NumberPart} {chars : Str} : part = .zero ∨ part = .integer → number py part chars.reverse = some v →
      Ended py v stack ⟨.number part chars, stack⟩

/-- A character that may follow a value. -/
def Follows (c : CodePoint) : Prop := isSpace c = true ∨ c = .ofChar ',' ∨ c = .ofChar ']' ∨ c = .ofChar '\x7d'

/-- What may follow a value does not go on with an integer. -/
theorem next_of_follows {c : CodePoint} (hc : Follows c) {part : NumberPart} (hpart : part = .zero ∨ part = .integer) :
    part.next c = none := by
  have hplain : isDigit c = false ∧ c.is '.' = false ∧ c.is 'e' = false ∧ c.is 'E' = false := by
    rcases hc with hc | rfl | rfl | rfl
    · simp only [isSpace, CodePoint.is, Bool.decide_or, Bool.or_eq_true, decide_eq_true_eq] at hc
      simp only [isDigit, CodePoint.is, decide_eq_false_iff_not]
      rcases hc with hc | hc | hc | hc
      all_goals
        rw [hc]
        decide
    · decide
    · decide
    · decide
  obtain ⟨hdigit, hpoint, he, hE⟩ := hplain
  rcases hpart with rfl | rfl <;> simp [NumberPart.next, hdigit, hpoint, he, hE]

/-- After a value, what follows it is handed to the container around. -/
theorem Ended.step {v : Value} {stack : List Frame} {s : State} (h : Ended py v stack s) {c : CodePoint} (hc : Follows c) :
    Json.step py s c = afterValue v c stack := by
  cases h with
  | complete => rfl
  | @number part chars hpart hnumber =>
    have hminus : part ≠ .minus := by
      rcases hpart with rfl | rfl <;> decide
    simp [Json.step, hminus, next_of_follows hc hpart, hnumber]

/-- A document may end after a value. -/
theorem Ended.finish {v : Value} {s : State} (h : Ended py v [] s) : finish py s = some v := by
  cases h with
  | complete => rfl
  | number _ hnumber => exact hnumber

/-! ## Numbers -/

/-- The digits of a natural number. -/
def natText (n : Nat) : Str := (Nat.toDigits 10 n).map CodePoint.ofChar

theorem ofString_ofNat (n : Nat) : Str.ofString (toString (Int.ofNat n)) = natText n := by
  show Str.ofString n.repr = natText n
  rw [Str.ofString, Nat.toList_repr, natText]

theorem ofString_negSucc (n : Nat) : Str.ofString (toString (Int.negSucc n)) = .ofChar '-' :: natText (n + 1) := by
  show Str.ofString ("-" ++ (n + 1).repr) = _
  rw [Str.ofString, String.toList_append, Nat.toList_repr, List.map_append, natText]
  rfl

/-- The text of a number has digits only. -/
theorem isDigit_natText (n : Nat) : ∀ c ∈ natText n, isDigit c = true := by
  intro c hc
  obtain ⟨char, hchar, rfl⟩ := List.mem_map.mp hc
  have hrange := Char.isDigit_iff_toNat.mp (Nat.isDigit_of_mem_toDigits (by decide) (by decide) hchar)
  exact decide_eq_true hrange

/-- A digit is no other character. -/
theorem is_eq_false {c : CodePoint} (hc : isDigit c = true) {char : Char} (h : char.toNat < 48 ∨ 57 < char.toNat) :
    c.is char = false := by
  simp only [isDigit, decide_eq_true_eq] at hc
  simp only [CodePoint.is, decide_eq_false_iff_not]
  omega

/-- Only zero is written with a zero in front. -/
theorem natText_cases (n : Nat) :
    (n = 0 ∧ natText n = [.ofChar '0']) ∨ ∃ d ds, natText n = d :: ds ∧ isDigit d = true ∧ d.is '0' = false := by
  induction n using Nat.base_induction 10 (by decide) with
  | single m hm =>
    have hdigit : natText m = [.ofChar m.digitChar] := by rw [natText, Nat.toDigits_of_lt_base hm, List.map_singleton]
    rw [hdigit]
    interval_cases m
    · exact Or.inl ⟨rfl, rfl⟩
    all_goals exact Or.inr ⟨_, [], rfl, rfl, rfl⟩
  | digit m k hk hm ih =>
    have happend : natText (10 * m + k) = natText m ++ natText k := by
      rw [natText, ← Nat.toDigits_append_toDigits (by decide) hm hk, List.map_append]
      rfl
    rcases ih with ⟨rfl, -⟩ | ⟨d, ds, hd, hdigit, hzero⟩
    · omega
    · exact Or.inr ⟨d, ds ++ natText k, by rw [happend, hd, List.cons_append], hdigit, hzero⟩

/-- A number is read back from its digits. -/
theorem ofDigits_natText (n : Nat) : ofDigits (natText n) = n := by
  have hfold : ofDigits (natText n) = Nat.ofDigitChars 10 (Nat.toDigits 10 n) 0 := by
    rw [ofDigits, natText, List.foldl_map, Nat.ofDigitChars_eq_foldl]
    rfl
  rw [hfold, Nat.ofDigitChars_ten_toDigits]

/-- Digits go on with a number. -/
theorem feed_digits {ds : Str} (hds : ∀ c ∈ ds, isDigit c = true) (chars : Str) (stack : List Frame) :
    feed py ⟨.number .integer chars, stack⟩ ds = some ⟨.number .integer (ds.reverse ++ chars), stack⟩ := by
  induction ds generalizing chars with
  | nil => rfl
  | cons d ds ih =>
    have hd := hds d List.mem_cons_self
    have hstep : step py ⟨.number .integer chars, stack⟩ d = some ⟨.number .integer (d :: chars), stack⟩ := by
      simp [step, NumberPart.next, hd]
    rw [feed_cons hstep, ih fun c hc => hds c (List.mem_cons_of_mem d hc)]
    simp

/-- A text of digits, with its sign, is the number. -/
theorem number_natText {part : NumberPart} (hpart : part = .zero ∨ part = .integer) {n : Nat}
    (hwithin : py.Within (natText n).length) (negative : Bool) :
    number py part (if negative then .ofChar '-' :: natText n else natText n) = some (.int (if negative then -n else n)) := by
  have hdigits := isDigit_natText n
  have hplain : ∀ c ∈ natText n, c.is '-' = false ∧ c.is 'e' = false ∧ c.is 'E' = false ∧ c.is '.' = false := by
    intro c hc
    have hdigit := hdigits c hc
    exact ⟨is_eq_false hdigit (by decide), is_eq_false hdigit (by decide), is_eq_false hdigit (by decide),
      is_eq_false hdigit (by decide)⟩
  have hmantissa : (natText n).takeWhile (fun c => !c.is 'e' && !c.is 'E') = natText n := by
    rw [List.takeWhile_eq_self_iff]
    intro c hc
    simp [hplain c hc]
  have hwhole : (natText n).takeWhile (fun c => !c.is '.') = natText n := by
    rw [List.takeWhile_eq_self_iff]
    intro c hc
    simp [hplain c hc]
  have hsign : (natText n).head?.any (·.is '-') = false := by
    cases hcases : natText n with
    | nil => rfl
    | cons c ds => exact (hplain c (hcases ▸ List.mem_cons_self)).1
  cases negative with
  | true =>
    have hminus : CodePoint.is (.ofChar '-') '-' = true := rfl
    rcases hpart with rfl | rfl <;>
      simp [number, hminus, hmantissa, hwhole, hwithin, ofDigits_natText]
  | false =>
    rcases hpart with rfl | rfl <;>
      simp [number, hsign, hmantissa, hwhole, hwithin, ofDigits_natText]

/-- The digits of a number are read from any state that takes its first digit as the reader's start of a number does. -/
theorem feed_natText {s : State} {chars : Str} {stack : List Frame} (n : Nat)
    (hzero : step py s (.ofChar '0') = some ⟨.number .zero (.ofChar '0' :: chars), stack⟩)
    (hdigit : ∀ d, isDigit d = true → d.is '0' = false → step py s d = some ⟨.number .integer (d :: chars), stack⟩) :
    ∃ part, (part = .zero ∨ part = .integer) ∧
      feed py s (natText n) = some ⟨.number part ((natText n).reverse ++ chars), stack⟩ := by
  rcases natText_cases n with ⟨-, htext⟩ | ⟨d, ds, htext, hd, hd0⟩
  · refine ⟨.zero, Or.inl rfl, ?_⟩
    rw [htext, feed_cons hzero]
    rfl
  · have hds : ∀ c ∈ ds, isDigit c = true := fun c hc => isDigit_natText n c (htext ▸ List.mem_cons_of_mem d hc)
    refine ⟨.integer, Or.inr rfl, ?_⟩
    rw [htext, feed_cons (hdigit d hd hd0), feed_digits hds]
    simp

/-! ## Strings -/

theorem hexDigit_mod (n : Nat) : hexDigit (n % 16) = hexDigit n := by
  simp only [hexDigit, Nat.mod_mod]

/-- A hexadecimal digit is read as its value. -/
theorem hexValue_hexDigit (n : Nat) : hexValue (hexDigit n) = some (n % 16) := by
  have hdigits : ∀ d < 16, hexValue (hexDigit d) = some d := by decide
  rw [← hexDigit_mod, hdigits _ (Nat.mod_lt _ (by omega))]

/-- A digit of an escape that is not its last one. -/
theorem step_hexDigit {key : Option (List (Str × Value))} {chars : List Piece} {stack : List Frame} {v : Fin 0x1000}
    {missing n : Nat} (h : 16 * v.val + n % 16 < 0x1000) :
    step py ⟨.string key chars (.unicode v (missing + 2)), stack⟩ (hexDigit n) =
      some ⟨.string key chars (.unicode ⟨16 * v.val + n % 16, h⟩ (missing + 1)), stack⟩ := by
  simp [step, inString, hexValue_hexDigit, h]

/-- The last digit of an escape. -/
theorem step_lastHexDigit {key : Option (List (Str × Value))} {chars : List Piece} {stack : List Frame} {v : Fin 0x1000}
    {n : Nat} (h : 16 * v.val + n % 16 < 0x110000) :
    step py ⟨.string key chars (.unicode v 1), stack⟩ (hexDigit n) =
      some ⟨.string key (⟨true, ⟨16 * v.val + n % 16, h⟩⟩ :: chars) .none, stack⟩ := by
  simp [step, inString, hexValue_hexDigit, h]

/-- An escape is read as the code unit it was written for. -/
theorem feed_unicodeEscape (key : Option (List (Str × Value))) (chars : List Piece) (stack : List Frame) {n : Nat}
    (h : n < 0x10000) :
    feed py ⟨.string key chars .none, stack⟩ (unicodeEscape n) =
      some ⟨.string key (⟨true, ⟨n, by omega⟩⟩ :: chars) .none, stack⟩ := by
  have hopen : feed py ⟨.string key chars .none, stack⟩ (Str.ofString "\\u") =
      some ⟨.string key chars (.unicode 0 4), stack⟩ := rfl
  have hfirst : 16 * (0 : Fin 0x1000).val + n / 4096 % 16 < 0x1000 := by
    simp only [Fin.val_zero]
    omega
  have hsecond : 16 * (16 * (0 : Fin 0x1000).val + n / 4096 % 16) + n / 256 % 16 < 0x1000 := by
    simp only [Fin.val_zero]
    omega
  have hthird : 16 * (16 * (16 * (0 : Fin 0x1000).val + n / 4096 % 16) + n / 256 % 16) + n / 16 % 16 < 0x1000 := by
    simp only [Fin.val_zero]
    omega
  have hall : 16 * (16 * (16 * (16 * (0 : Fin 0x1000).val + n / 4096 % 16) + n / 256 % 16) + n / 16 % 16) + n % 16 = n := by
    simp only [Fin.val_zero]
    omega
  rw [unicodeEscape, feed_append hopen, feed_cons (step_hexDigit hfirst), feed_cons (step_hexDigit hsecond),
    feed_cons (step_hexDigit hthird), feed_cons (step_lastHexDigit (by rw [hall]; omega))]
  simp only [hall]
  rfl

theorem highSurrogate_lt (c : CodePoint) : highSurrogate c < 0x10000 := by
  have hlt := c.isLt
  unfold highSurrogate
  omega

theorem lowSurrogate_lt (c : CodePoint) : lowSurrogate c < 0x10000 := by
  have hlt := c.isLt
  unfold lowSurrogate
  omega

/-- The halves of a character, as characters. -/
def highHalf (c : CodePoint) : CodePoint := ⟨highSurrogate c, (highSurrogate_lt c).trans (by decide)⟩

def lowHalf (c : CodePoint) : CodePoint := ⟨lowSurrogate c, (lowSurrogate_lt c).trans (by decide)⟩

/-- How the reader keeps a character that was written. -/
def pieces (c : CodePoint) : List Piece :=
  if c.is '"' ∨ c.is '\\' ∨ c.is '\n' ∨ c.is '\r' ∨ c.is '\t' ∨ c.is '\x0c' ∨ c.is '\x08' ∨ 32 ≤ c.val ∧ c.val ≤ 126 then
    [⟨false, c⟩]
  else if c.val < 0x10000 then [⟨true, c⟩]
  else [⟨true, highHalf c⟩, ⟨true, lowHalf c⟩]

/-- What is written of a character is read as its pieces. -/
theorem feed_escapeChar (key : Option (List (Str × Value))) (chars : List Piece) (stack : List Frame) (c : CodePoint) :
    feed py ⟨.string key chars .none, stack⟩ (escapeChar c) =
      some ⟨.string key ((pieces c).reverse ++ chars) .none, stack⟩ := by
  have heq : ∀ char : Char, c.is char = true → c = .ofChar char := by
    intro char h
    exact Fin.ext (of_decide_eq_true h)
  by_cases hquote : c.is '"' = true
  · obtain rfl := heq _ hquote
    rfl
  by_cases hbackslash : c.is '\\' = true
  · obtain rfl := heq _ hbackslash
    rfl
  by_cases hn : c.is '\n' = true
  · obtain rfl := heq _ hn
    rfl
  by_cases hr : c.is '\r' = true
  · obtain rfl := heq _ hr
    rfl
  by_cases ht : c.is '\t' = true
  · obtain rfl := heq _ ht
    rfl
  by_cases hf : c.is '\x0c' = true
  · obtain rfl := heq _ hf
    rfl
  by_cases hb : c.is '\x08' = true
  · obtain rfl := heq _ hb
    rfl
  simp only [escapeChar, pieces, hquote, hbackslash, hn, hr, ht, hf, hb, false_or, Bool.false_eq_true, if_false]
  by_cases hplain : 32 ≤ c.val ∧ c.val ≤ 126
  · have hstep : step py ⟨.string key chars .none, stack⟩ c = some ⟨.string key (⟨false, c⟩ :: chars) .none, stack⟩ := by
      simp [step, inString, hquote, hbackslash, Nat.not_lt.mpr hplain.1]
    rw [if_pos hplain, if_pos hplain, feed_cons hstep]
    rfl
  · rw [if_neg hplain, if_neg hplain]
    by_cases hbasic : c.val < 0x10000
    · rw [if_pos hbasic, if_pos hbasic, feed_unicodeEscape key chars stack hbasic]
      rfl
    · rw [if_neg hbasic, if_neg hbasic, feed_append (feed_unicodeEscape key chars stack (highSurrogate_lt c)),
        feed_unicodeEscape key _ stack (lowSurrogate_lt c)]
      rfl

/-- What is written of a text is read as the pieces of its characters. -/
theorem feed_escaped (key : Option (List (Str × Value))) (chars : List Piece) (stack : List Frame) (s : Str) :
    feed py ⟨.string key chars .none, stack⟩ (s.flatMap escapeChar) =
      some ⟨.string key ((s.flatMap pieces).reverse ++ chars) .none, stack⟩ := by
  induction s generalizing chars with
  | nil => rfl
  | cons c s ih =>
    rw [List.flatMap_cons, feed_append (feed_escapeChar key chars stack c), ih]
    simp

/-! ## Surrogates -/

def IsHigh (c : CodePoint) : Prop := 0xD800 ≤ c.val ∧ c.val < 0xDC00

def IsLow (c : CodePoint) : Prop := 0xDC00 ≤ c.val ∧ c.val < 0xE000

/-- A text without the two halves of a character side by side, which are read back as that character. -/
def Whole (s : Str) : Prop := s.IsChain fun c d => ¬(IsHigh c ∧ IsLow d)

/-- A piece that begins no pair stands for itself. -/
theorem joinSurrogates_cons {p : Piece} {ps : List Piece}
    (h : ∀ q rest, ps = q :: rest → p.escaped = true → q.escaped = true → ¬(IsHigh p.code ∧ IsLow q.code)) :
    joinSurrogates (p :: ps) = p.code :: joinSurrogates ps := by
  obtain ⟨escaped, code⟩ := p
  cases escaped with
  | false => rfl
  | true =>
    cases ps with
    | nil => rfl
    | cons q rest =>
      obtain ⟨escaped, code'⟩ := q
      cases escaped with
      | false => rfl
      | true =>
        rw [joinSurrogates]
        exact dif_neg (h _ rest rfl rfl rfl)

/-- Of the pieces of a character, only one that is half a character itself is a low surrogate. -/
theorem eq_of_low_piece {c : CodePoint} {q : Piece} {rest : List Piece} (h : pieces c = q :: rest) (hlow : IsLow q.code) :
    q.code = c := by
  have hlt := c.isLt
  unfold pieces at h
  split at h
  · cases h
    rfl
  · split at h
    · cases h
      rfl
    · cases h
      simp only [IsLow, highHalf, highSurrogate] at hlow
      omega

/-- The pieces of a text without a divided pair are joined to the text. -/
theorem joinSurrogates_pieces {s : Str} (h : Whole s) : joinSurrogates (s.flatMap pieces) = s := by
  induction s with
  | nil => rfl
  | cons c s ih =>
    have hrest := ih (List.IsChain.tail h)
    have hone : ∀ escaped, joinSurrogates (⟨escaped, c⟩ :: s.flatMap pieces) = c :: s := by
      intro escaped
      rw [joinSurrogates_cons, hrest]
      intro q rest hq _ _ hsurrogates
      cases s with
      | nil => cases hq
      | cons d s =>
        have hhead : ∃ rest', pieces d = q :: rest' := by
          rw [List.flatMap_cons] at hq
          cases hd : pieces d with
          | nil =>
            unfold pieces at hd
            split_ifs at hd
          | cons q' rest' =>
            rw [hd, List.cons_append] at hq
            exact ⟨rest', by rw [(List.cons.inj hq).1]⟩
        obtain ⟨rest', hd⟩ := hhead
        have hlow : IsLow d := eq_of_low_piece hd hsurrogates.2 ▸ hsurrogates.2
        exact (List.isChain_cons_cons.mp h).1 ⟨hsurrogates.1, hlow⟩
    rw [List.flatMap_cons]
    by_cases hpair : c.val < 0x10000
    · have hsingle : ∃ escaped, pieces c = [⟨escaped, c⟩] := by
        unfold pieces
        split
        · exact ⟨false, rfl⟩
        · exact ⟨true, rfl⟩
      obtain ⟨escaped, hc⟩ := hsingle
      rw [hc, List.singleton_append, hone]
    · have hlt := c.isLt
      have hc : pieces c = [⟨true, highHalf c⟩, ⟨true, lowHalf c⟩] := by
        rw [pieces, if_neg, if_neg hpair]
        simp only [CodePoint.is, decide_eq_true_eq, not_or, not_and, not_le]
        refine ⟨?_, ?_, ?_, ?_, ?_, ?_, ?_, ?_⟩
        case refine_8 =>
          intro _
          omega
        all_goals
          intro heq
          rw [heq] at hpair
          exact hpair (by decide)
      have hboth : (0xD800 ≤ (highHalf c).val ∧ (highHalf c).val < 0xDC00) ∧ 0xDC00 ≤ (lowHalf c).val ∧
          (lowHalf c).val < 0xE000 := by
        simp only [highHalf, lowHalf, highSurrogate, lowSurrogate]
        omega
      rw [hc, List.cons_append, List.singleton_append, joinSurrogates, dif_pos hboth, hrest]
      refine congrArg (· :: s) (Fin.ext ?_)
      simp only [highHalf, lowHalf, highSurrogate, lowSurrogate]
      omega

/-- A text of characters has no halves of characters in it. -/
theorem whole_ofChars (chars : List Char) : Whole (chars.map CodePoint.ofChar) := by
  have hnot : ∀ char : Char, ¬IsLow (.ofChar char) := by
    intro char hlow
    have hvalid := char.valid
    simp only [UInt32.isValidChar, Nat.isValidChar] at hvalid
    simp only [IsLow, CodePoint.ofChar, Char.toNat] at hlow
    omega
  induction chars with
  | nil => exact List.isChain_nil
  | cons char chars ih =>
    cases chars with
    | nil => exact List.isChain_singleton _
    | cons char' chars => exact List.isChain_cons_cons.mpr ⟨fun h => hnot char' h.2, ih⟩

/-- Text of characters has no divided pair. -/
theorem whole_ofString (s : String) : Whole (Str.ofString s) := whole_ofChars s.toList

/-- From a text on, up to the character that ends it. -/
theorem feed_stringText (key : Option (List (Str × Value))) (stack : List Frame) {s : Str} (h : Whole s) :
    feed py ⟨.string key [] .none, stack⟩ (s.flatMap escapeChar ++ [.ofChar '"']) =
      some (match key with | none => ⟨.complete (.str s), stack⟩ | some entries => ⟨.colon entries s, stack⟩) := by
  have hquote : CodePoint.is (.ofChar '"') '"' = true := rfl
  have hjoin : joinSurrogates (s.flatMap pieces).reverse.reverse = s := by rw [List.reverse_reverse, joinSurrogates_pieces h]
  have hstep : step py ⟨.string key ((s.flatMap pieces).reverse ++ []) .none, stack⟩ (.ofChar '"') =
      some (match key with | none => ⟨.complete (.str s), stack⟩ | some entries => ⟨.colon entries s, stack⟩) := by
    simp only [step, inString, hquote, if_true, List.append_nil, hjoin]
    cases key with
    | none => rfl
    | some entries => rfl
  rw [feed_append (feed_escaped key [] stack s), feed_cons hstep, feed_nil]

end Py.Json
