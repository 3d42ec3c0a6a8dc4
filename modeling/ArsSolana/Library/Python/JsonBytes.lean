import ArsSolana.Library.Python.Codec
import ArsSolana.Library.Python.JsonRoundTrip

/-!
# JSON documents as bytes

With `ensure_ascii` a document is ASCII text, which is its own UTF-8 encoding.
-/

namespace Py

/-- Text of ASCII characters. -/
def Ascii (s : Str) : Prop := ∀ c ∈ s, c.val < 128

theorem Ascii.append {s t : Str} (hs : Ascii s) (ht : Ascii t) : Ascii (s ++ t) := by
  intro c hc
  rcases List.mem_append.mp hc with hc | hc
  · exact hs c hc
  · exact ht c hc

theorem Ascii.cons {c : CodePoint} {s : Str} (hc : c.val < 128) (hs : Ascii s) : Ascii (c :: s) := by
  intro d hd
  rcases List.mem_cons.mp hd with rfl | hd
  · exact hc
  · exact hs d hd

theorem ascii_nil : Ascii [] := by
  intro c hc
  cases hc

theorem ascii_singleton {c : CodePoint} (hc : c.val < 128) : Ascii [c] := ascii_nil.cons hc

/-- Text is ASCII when its characters are. -/
theorem ascii_ofString {s : String} (h : s.toList.all (fun char => char.toNat < 128) = true) : Ascii (Str.ofString s) := by
  intro c hc
  obtain ⟨char, hchar, rfl⟩ := List.mem_map.mp hc
  exact of_decide_eq_true (List.all_eq_true.mp h char hchar)

/-! ## UTF-8 -/

/-- The bytes of ASCII text. -/
def asciiBytes (s : Str) : List UInt8 := s.map fun c => UInt8.ofNat c.val

/-- ASCII text is text of characters. -/
theorem Ascii.exists_chars {s : Str} (h : Ascii s) : ∃ chars : List Char, s = chars.map CodePoint.ofChar := by
  induction s with
  | nil => exact ⟨[], rfl⟩
  | cons c s ih =>
    have hc := h c List.mem_cons_self
    obtain ⟨chars, rfl⟩ := ih fun d hd => h d (List.mem_cons_of_mem c hd)
    refine ⟨Char.ofNatAux c.val (Or.inl (by omega)) :: chars, ?_⟩
    rfl

/-- ASCII text is encoded a byte a character. -/
theorem encodeUtf8_ascii {s : Str} (h : Ascii s) : encodeUtf8 s = .ok (asciiBytes s) := by
  obtain ⟨chars, rfl⟩ := h.exists_chars
  rw [encodeUtf8_ofChars]
  refine congrArg _ ?_
  induction chars with
  | nil => rfl
  | cons char chars ih =>
    have hchar : char.val.toNat < 128 := h (.ofChar char) List.mem_cons_self
    have hbyte : String.utf8EncodeChar char = [UInt8.ofNat char.val.toNat] := if_pos (by omega)
    have hrest := ih fun d hd => h d (List.mem_cons_of_mem _ hd)
    rw [utf8Bytes] at hrest ⊢
    rw [List.flatMap_cons, hbyte, hrest]
    rfl

/-- The bytes of ASCII text are decoded to it. -/
theorem decodeUtf8_ascii (py : Interpreter) {s : Str} (h : Ascii s) : py.decodeUtf8 (asciiBytes s) = .ok s := by
  have hchars : utf8Chars (asciiBytes s) = some s := by
    induction s with
    | nil => rfl
    | cons c s ih =>
      have hc := h c List.mem_cons_self
      have hnat : (UInt8.ofNat c.val).toNat = c.val := by
        rw [UInt8.toNat_ofNat']
        omega
      have hbyte : UInt8.ofNat c.val < 0x80 := by
        rw [UInt8.lt_iff_toNat_lt, hnat]
        exact hc
      have hpoint : codePoint (UInt8.ofNat c.val).toNat [] = c := by
        rw [hnat]
        exact Fin.ext (Nat.mod_eq_of_lt c.isLt)
      have hrest := ih fun d hd => h d (List.mem_cons_of_mem c hd)
      unfold asciiBytes at hrest ⊢
      unfold utf8Chars
      simp only [List.map_cons, hbyte, if_true, hpoint, hrest]
      rfl
  rw [Interpreter.decodeUtf8, hchars]

/-! ## The text of a document -/

namespace Json

/-- An escape is ASCII. -/
theorem ascii_unicodeEscape (n : Nat) : Ascii (unicodeEscape n) := by
  have hhex : ∀ n, (hexDigit n).val < 128 := by
    intro n
    have hdigits : ∀ d < 16, (hexDigit d).val < 128 := by decide
    rw [← hexDigit_mod]
    exact hdigits _ (Nat.mod_lt _ (by omega))
  exact (ascii_ofString rfl).append (.cons (hhex _) (.cons (hhex _) (.cons (hhex _) (ascii_singleton (hhex _)))))

/-- Whatever the character, what is written of it in a string is ASCII. -/
theorem ascii_escapeChar (c : CodePoint) : Ascii (escapeChar c) := by
  unfold escapeChar
  split_ifs with hquote hn hr ht hf hb hplain hbasic
  · refine .cons (by decide) (ascii_singleton ?_)
    simp only [CodePoint.is, decide_eq_true_eq] at hquote
    rcases hquote with h | h
    all_goals
      rw [h]
      decide
  · exact ascii_ofString rfl
  · exact ascii_ofString rfl
  · exact ascii_ofString rfl
  · exact ascii_ofString rfl
  · exact ascii_ofString rfl
  · exact ascii_singleton (by omega)
  · exact ascii_unicodeEscape _
  · exact (ascii_unicodeEscape _).append (ascii_unicodeEscape _)

/-- What is written of a string is ASCII. -/
theorem ascii_writeString (s : Str) : Ascii (writeString s) := by
  refine .append (.cons (by decide) ?_) (ascii_singleton (by decide))
  intro c hc
  obtain ⟨d, -, hc⟩ := List.mem_flatMap.mp hc
  exact ascii_escapeChar d c hc

/-- A new line with its indentation is ASCII. -/
theorem ascii_newline (indent : Option Nat) (level : Nat) : Ascii (newline indent level) := by
  cases indent with
  | none => exact ascii_nil
  | some n =>
    refine .cons (by decide) ?_
    intro c hc
    rw [List.eq_of_mem_replicate hc]
    decide

/-- What stands between two members is ASCII. -/
theorem ascii_separator (indent : Option Nat) (level : Nat) : Ascii (separator indent level) := by
  unfold separator
  split
  · exact .cons (by decide) (ascii_singleton (by decide))
  · exact .cons (by decide) (ascii_newline indent level)

/-- The text of a number is ASCII. -/
theorem ascii_natText (n : Nat) : Ascii (natText n) := by
  intro c hc
  have hdigit := isDigit_natText n c hc
  simp only [isDigit, decide_eq_true_eq] at hdigit
  omega

/-- The text of an integer is ASCII. -/
theorem ascii_int (n : Int) : Ascii (Str.ofString (toString n)) := by
  cases n with
  | ofNat n =>
    rw [ofString_ofNat]
    exact ascii_natText n
  | negSucc n =>
    rw [ofString_negSucc]
    exact .cons (by decide) (ascii_natText (n + 1))

section

variable {py : Interpreter} {floatText : Float → Str} {indent : Option Nat}

/-- The items of a list are written in ASCII when each is. -/
theorem ascii_writeItems {items : List Value} (h : ∀ v ∈ items, ∀ level, Ascii (write floatText indent level v)) (level : Nat) :
    Ascii (writeItems floatText indent level items) := by
  induction items with
  | nil => exact ascii_nil
  | cons v items ih =>
    have hv := h v List.mem_cons_self level
    exact ((ascii_separator indent level).append hv).append (ih fun w hw => h w (List.mem_cons_of_mem v hw))

/-- A key, the colon, and the value. -/
theorem ascii_entry {key text : Str} (h : Ascii text) : Ascii (writeString key ++ Str.ofString ": " ++ text) :=
  ((ascii_writeString key).append (ascii_ofString rfl)).append h

/-- The entries of a dictionary are written in ASCII when each value is. -/
theorem ascii_writeEntries {entries : List (Str × Value)}
    (h : ∀ e ∈ entries, ∀ level, Ascii (write floatText indent level e.2)) (level : Nat) :
    Ascii (writeEntries floatText indent level entries) := by
  induction entries with
  | nil => exact ascii_nil
  | cons e entries ih =>
    obtain ⟨key, v⟩ := e
    have hentry : Ascii (writeString key ++ Str.ofString ": " ++ write floatText indent level v) :=
      ascii_entry (h (key, v) List.mem_cons_self level)
    have hrest := ih fun x hx => h x (List.mem_cons_of_mem _ hx)
    rw [writeEntries, List.append_assoc (separator indent level), List.append_assoc (separator indent level)]
    exact ((ascii_separator indent level).append hentry).append hrest

/-- The text of a plain document is ASCII. -/
theorem Plain.ascii {depth : Nat} {v : Value} (h : Plain depth v) (level : Nat) : Ascii (write floatText indent level v) := by
  induction h generalizing level with
  | none => exact ascii_ofString rfl
  | bool b => cases b <;> exact ascii_ofString rfl
  | int n => exact ascii_int n
  | @str _ s _ => exact ascii_writeString s
  | @list _ items _ ih =>
    cases items with
    | nil => exact ascii_ofString rfl
    | cons v items =>
      have hv := ih v List.mem_cons_self (level + 1)
      have hitems := ascii_writeItems (fun w hw => ih w (List.mem_cons_of_mem v hw)) (level + 1)
      exact ((((ascii_newline indent (level + 1)).append hv).append hitems).append (ascii_newline indent level)).append
        (ascii_singleton (by decide)) |>.cons (by decide)
  | @dict _ entries _ _ _ ih =>
    cases entries with
    | nil => exact ascii_ofString rfl
    | cons e entries =>
      obtain ⟨key, v⟩ := e
      have hentry : Ascii (writeString key ++ Str.ofString ": " ++ write floatText indent (level + 1) v) :=
        ascii_entry (ih (key, v) List.mem_cons_self (level + 1))
      have hentries := ascii_writeEntries (fun x hx => ih x (List.mem_cons_of_mem _ hx)) (level + 1)
      have hall := ((((ascii_newline indent (level + 1)).append hentry).append hentries).append
        (ascii_newline indent level)).append (ascii_singleton (c := .ofChar '\x7d') (by decide))
      rw [write]
      simp only [List.append_assoc, List.cons_append] at hall ⊢
      exact hall.cons (by decide)

/-- The bytes of a plain document are decoded to its text. -/
theorem decodeUtf8_dumps {depth : Nat} {v : Value} {doc : Str} (h : Plain depth v)
    (hdoc : dumps py indent v = .ok doc) :
    encodeUtf8 doc = .ok (asciiBytes doc) ∧ py.decodeUtf8 (asciiBytes doc) = .ok doc := by
  obtain ⟨-, rfl⟩ := dumps_ok_iff.mp hdoc
  exact ⟨encodeUtf8_ascii (h.ascii 0), decodeUtf8_ascii py (h.ascii 0)⟩

end

end Json

end Py
