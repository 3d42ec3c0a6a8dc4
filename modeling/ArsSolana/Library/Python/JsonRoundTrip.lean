import ArsSolana.Library.Python.JsonTokens

/-!
# What `json.dumps` writes, `json.loads` reads back

The reader is followed along the text of a value: from a state in which a value is due to one in which that value is complete,
with the same lists and dictionaries open.
-/

namespace Py.Json

variable {py : Interpreter}

/-! ## Lists and dictionaries -/

/-- White space after a value changes nothing. -/
theorem afterValue_blank {c : CodePoint} (hc : isSpace c = true) (v : Value) (stack : List Frame) :
    afterValue v c stack = some ⟨.complete v, stack⟩ := by
  cases stack with
  | nil => simp [afterValue, hc]
  | cons frame stack => cases frame <;> simp [afterValue, hc]

/-- Blanks end a value and change nothing else. -/
theorem Ended.feed_blanks {v : Value} {stack : List Frame} {s : State} (h : Ended py v stack s) {text : Str}
    (hblank : ∀ c ∈ text, isSpace c = true) : ∃ t, feed py s text = some t ∧ Ended py v stack t := by
  induction text generalizing s with
  | nil => exact ⟨s, rfl, h⟩
  | cons c text ih =>
    have hc := hblank c List.mem_cons_self
    rw [feed_cons ((h.step (Or.inl hc)).trans (afterValue_blank hc v stack))]
    exact ih .complete fun d hd => hblank d (List.mem_cons_of_mem c hd)

/-- The character behind a value, after some blanks. -/
theorem Ended.feed_closing {v : Value} {stack : List Frame} {s t : State} (h : Ended py v stack s) {text : Str}
    (hblank : ∀ c ∈ text, isSpace c = true) {c : CodePoint} (hc : Follows c) (hafter : afterValue v c stack = some t) :
    feed py s (text ++ [c]) = some t := by
  obtain ⟨u, hu, hended⟩ := h.feed_blanks hblank
  rw [feed_append hu, feed_cons ((hended.step hc).trans hafter), feed_nil]

/-- A separator after a value: the next item, or the next key, is due. -/
theorem Ended.feed_separator {v : Value} {stack : List Frame} {s t : State} (h : Ended py v stack s)
    (hafter : afterValue v (.ofChar ',') stack = some t) (hskips : SkipsBlanks py t) (indent : Option Nat)
    (level : Nat) : feed py s (separator indent level) = some t := by
  rw [separator, feed_cons ((h.step (Or.inr (Or.inl rfl))).trans hafter)]
  refine Json.feed_blanks hskips ?_
  cases indent with
  | none =>
    intro c hc
    rw [List.mem_singleton.mp hc]
    rfl
  | some n => exact isSpace_newline (some n) level

section Documents

variable (py) (floatText : Float → Str) (indent : Option Nat)

/-- The text of a value is read back, wherever a value is due and it may nest so deep. -/
def ReadBack (depth : Nat) (v : Value) : Prop :=
  ∀ level closable stack, stack.length + depth ≤ py.maxDepth →
    ∃ s, feed py ⟨.value closable, stack⟩ (write floatText indent level v) = some s ∧ Ended py v stack s

variable {py floatText indent}

/-- The items behind the first one are read back one after another. -/
theorem readBack_items {depth : Nat} (level : Nat) {items : List Value} (h : ∀ v ∈ items, ReadBack py floatText indent depth v)
    {acc : List Value} {v : Value} {rest : List Frame} {s : State} (hs : Ended py v (.list acc :: rest) s)
    (hdepth : rest.length + (depth + 1) ≤ py.maxDepth) :
    feed py s (writeItems floatText indent (level + 1) items ++ newline indent level ++ [.ofChar ']']) =
      some ⟨.complete (.list (acc.reverse ++ v :: items)), rest⟩ := by
  induction items generalizing acc v s with
  | nil =>
    refine hs.feed_closing (isSpace_newline indent level) (Or.inr (Or.inr (Or.inl rfl))) ?_
    rw [← List.reverse_cons]
    rfl
  | cons w items ih =>
    have hitem : feed py s (separator indent (level + 1)) = some ⟨.value false, .list (v :: acc) :: rest⟩ :=
      hs.feed_separator rfl (skipsBlanks_value false _) indent (level + 1)
    obtain ⟨t, ht, hended⟩ := h w List.mem_cons_self (level + 1) false (.list (v :: acc) :: rest) (by
      rw [List.length_cons]
      omega)
    have hrest := ih (fun x hx => h x (List.mem_cons_of_mem w hx)) hended
    simp only [writeItems, List.append_assoc] at hrest ⊢
    rw [feed_append hitem, feed_append ht, hrest]
    simp

/-- A key with its value. -/
theorem readBack_entry {depth : Nat} (level : Nat) {v : Value} (h : ReadBack py floatText indent depth v) {key : Str}
    (hkey : Whole key) (entries : List (Str × Value)) (closable : Bool) {rest : List Frame}
    (hdepth : rest.length + (depth + 1) ≤ py.maxDepth) :
    ∃ s, feed py ⟨.key entries closable, rest⟩ (writeString key ++ Str.ofString ": " ++ write floatText indent level v) = some s ∧
      Ended py v (.dict entries key :: rest) s := by
  have hquote : step py ⟨.key entries closable, rest⟩ (.ofChar '"') = some ⟨.string (some entries) [] .none, rest⟩ := by
    have hblank : isSpace (.ofChar '"') = false := rfl
    have hbrace : CodePoint.is (.ofChar '"') '\x7d' = false := rfl
    have his : CodePoint.is (.ofChar '"') '"' = true := rfl
    simp [step, hblank, hbrace, his]
  have hstring : feed py ⟨.key entries closable, rest⟩ (writeString key) = some ⟨.colon entries key, rest⟩ := by
    rw [writeString, List.cons_append, feed_cons hquote, feed_stringText (some entries) rest hkey]
  have hcolon : feed py ⟨.colon entries key, rest⟩ (Str.ofString ": ") = some ⟨.value false, .dict entries key :: rest⟩ := by
    have hpush : step py ⟨.colon entries key, rest⟩ (.ofChar ':') = some ⟨.value false, .dict entries key :: rest⟩ := by
      have hblank : isSpace (.ofChar ':') = false := rfl
      have his : CodePoint.is (.ofChar ':') ':' = true := rfl
      have hroom : rest.length < py.maxDepth := by omega
      simp [step, hblank, his, push, hroom]
    have htext : Str.ofString ": " = [.ofChar ':', .ofChar ' '] := rfl
    rw [htext, feed_cons hpush, feed_cons (skipsBlanks_value false _ _ rfl), feed_nil]
  obtain ⟨s, hs, hended⟩ := h level false (.dict entries key :: rest) (by
    rw [List.length_cons]
    omega)
  exact ⟨s, by rw [List.append_assoc, feed_append hstring, feed_append hcolon, hs], hended⟩

/-- The entries behind the first one are read back one after another. -/
theorem readBack_entries {depth : Nat} (level : Nat) {entries : List (Str × Value)} (hkeys : ∀ e ∈ entries, Whole e.1)
    (h : ∀ e ∈ entries, ReadBack py floatText indent depth e.2) {acc : List (Str × Value)} {key : Str} {v : Value}
    (hnodup : ((acc ++ (key, v) :: entries).map Prod.fst).Nodup) {rest : List Frame} {s : State}
    (hs : Ended py v (.dict acc key :: rest) s) (hdepth : rest.length + (depth + 1) ≤ py.maxDepth) :
    feed py s (writeEntries floatText indent (level + 1) entries ++ newline indent level ++ [.ofChar '\x7d']) =
      some ⟨.complete (.dict (acc ++ (key, v) :: entries)), rest⟩ := by
  induction entries generalizing acc key v s with
  | nil =>
    refine hs.feed_closing (isSpace_newline indent level) (Or.inr (Or.inr (Or.inr rfl))) ?_
    rw [← OrderedMap.put_of_nodup hnodup]
    rfl
  | cons e entries ih =>
    obtain ⟨key', w⟩ := e
    have hnext : feed py s (separator indent (level + 1)) = some ⟨.key (acc ++ [(key, v)]) false, rest⟩ := by
      refine hs.feed_separator ?_ (skipsBlanks_key _ false rest) indent (level + 1)
      rw [← OrderedMap.put_of_nodup hnodup]
      rfl
    obtain ⟨t, ht, hended⟩ := readBack_entry (level + 1) (h (key', w) List.mem_cons_self)
      (hkeys (key', w) List.mem_cons_self) (acc ++ [(key, v)]) false hdepth
    have hnodup' : ((acc ++ [(key, v)] ++ (key', w) :: entries).map Prod.fst).Nodup := by
      rwa [List.append_assoc, List.singleton_append]
    have hrest := ih (fun x hx => hkeys x (List.mem_cons_of_mem _ hx)) (fun x hx => h x (List.mem_cons_of_mem _ hx))
      hnodup' hended
    simp only [writeEntries, List.append_assoc] at ht hrest ⊢
    rw [feed_append hnext, ← List.append_assoc (Str.ofString ": "), ← List.append_assoc (writeString key')]
    rw [feed_append (by simpa only [List.append_assoc] using ht), hrest]
    simp

/-! ## Documents -/

/-- A document that is read back: its texts are whole, its keys are different, there is no float in it, and no more than so many
lists and dictionaries stand in one another. -/
inductive Plain : Nat → Value → Prop
  | none {depth} : Plain depth .none
  | bool {depth} (b : Bool) : Plain depth (.bool b)
  | int {depth} (n : Int) : Plain depth (.int n)
  | str {depth s} : Whole s → Plain depth (.str s)
  | list {depth items} : (∀ v ∈ items, Plain depth v) → Plain (depth + 1) (.list items)
  | dict {depth entries} : (entries.map Prod.fst).Nodup → (∀ e ∈ entries, Whole e.1) → (∀ e ∈ entries, Plain depth e.2) →
      Plain (depth + 1) (.dict entries)

/-- The first digit of a number. -/
theorem step_digit {d : CodePoint} (hd : isDigit d = true) (hzero : d.is '0' = false) (closable : Bool) (stack : List Frame) :
    step py ⟨.value closable, stack⟩ d = some ⟨.number .integer [d], stack⟩ := by
  have hother : ∀ char : Char, char.toNat < 48 ∨ 57 < char.toNat → d.is char = false := fun char h => is_eq_false hd h
  simp [step, begin, isSpace, hd, hzero, hother]

/-- The first digit behind a sign. -/
theorem step_signedDigit {d : CodePoint} (hd : isDigit d = true) (hzero : d.is '0' = false) (chars : Str) (stack : List Frame) :
    step py ⟨.number .minus chars, stack⟩ d = some ⟨.number .integer (d :: chars), stack⟩ := by
  have hword : d.is 'I' = false := is_eq_false hd (by decide)
  simp [step, NumberPart.next, hd, hzero, hword]

/-- An integer the interpreter can write is read back. -/
theorem readBack_int {depth : Nat} {n : Int} (h : py.Printable n) : ReadBack py floatText indent depth (.int n) := by
  intro level closable stack _
  have hwithin : py.Within (natText n.natAbs).length := by
    rw [natText, List.length_map]
    exact h
  cases n with
  | ofNat n =>
    have htext : write floatText indent level (.int (.ofNat n)) = natText n := ofString_ofNat n
    have hzero : step py ⟨.value closable, stack⟩ (.ofChar '0') = some ⟨.number .zero [.ofChar '0'], stack⟩ := by
      cases closable <;> rfl
    obtain ⟨part, hpart, hfeed⟩ := feed_natText n hzero fun d hd hd0 => step_digit hd hd0 closable stack
    have hnumber := number_natText hpart hwithin false
    rw [htext]
    refine ⟨_, hfeed, .number hpart ?_⟩
    rw [List.append_nil, List.reverse_reverse]
    exact hnumber
  | negSucc n =>
    have htext : write floatText indent level (.int (.negSucc n)) = .ofChar '-' :: natText (n + 1) := ofString_negSucc n
    have hminus : step py ⟨.value closable, stack⟩ (.ofChar '-') = some ⟨.number .minus [.ofChar '-'], stack⟩ := by
      cases closable <;> rfl
    obtain ⟨part, hpart, hfeed⟩ := feed_natText (n + 1)
      (rfl : step py ⟨.number .minus [.ofChar '-'], stack⟩ (.ofChar '0') = _) fun d hd hd0 => step_signedDigit hd hd0 _ stack
    have hnumber := number_natText hpart hwithin true
    refine ⟨_, by rw [htext, feed_cons hminus, hfeed], .number hpart ?_⟩
    rw [List.reverse_append, List.reverse_reverse]
    exact hnumber

/-- A list is read back when its items are. -/
theorem readBack_list {depth : Nat} {items : List Value} (h : ∀ v ∈ items, ReadBack py floatText indent depth v) :
    ReadBack py floatText indent (depth + 1) (.list items) := by
  intro level closable stack hdepth
  have hroom : stack.length < py.maxDepth := by omega
  have hopen : step py ⟨.value closable, stack⟩ (.ofChar '[') = some ⟨.value true, .list [] :: stack⟩ := by
    have hblank : isSpace (.ofChar '[') = false := rfl
    have hclose : CodePoint.is (.ofChar '[') ']' = false := rfl
    have hquote : CodePoint.is (.ofChar '[') '"' = false := rfl
    have his : CodePoint.is (.ofChar '[') '[' = true := rfl
    simp [step, begin, hblank, hclose, hquote, his, push, hroom]
  cases items with
  | nil =>
    have htext : write floatText indent level (.list []) = [.ofChar '[', .ofChar ']'] := rfl
    have hclose : step py ⟨.value true, .list [] :: stack⟩ (.ofChar ']') = some ⟨.complete (.list []), stack⟩ := rfl
    exact ⟨_, by rw [htext, feed_cons hopen, feed_cons hclose, feed_nil], .complete⟩
  | cons v items =>
    have hblanks : feed py ⟨.value true, .list [] :: stack⟩ (newline indent (level + 1)) = some ⟨.value true, .list [] :: stack⟩ :=
      feed_blanks (skipsBlanks_value true _) (isSpace_newline indent (level + 1))
    obtain ⟨s, hs, hended⟩ := h v List.mem_cons_self (level + 1) true (.list [] :: stack) (by
      rw [List.length_cons]
      omega)
    have hitems := readBack_items level (fun w hw => h w (List.mem_cons_of_mem v hw)) hended hdepth
    refine ⟨_, ?_, .complete⟩
    simp only [write, List.cons_append, List.append_assoc] at hitems ⊢
    rw [feed_cons hopen, feed_append hblanks, feed_append hs, hitems]
    rfl

/-- A dictionary is read back when its keys differ and its values are read back. -/
theorem readBack_dict {depth : Nat} {entries : List (Str × Value)} (hnodup : (entries.map Prod.fst).Nodup)
    (hkeys : ∀ e ∈ entries, Whole e.1) (h : ∀ e ∈ entries, ReadBack py floatText indent depth e.2) :
    ReadBack py floatText indent (depth + 1) (.dict entries) := by
  intro level closable stack hdepth
  have hroom : stack.length < py.maxDepth := by omega
  have hopen : step py ⟨.value closable, stack⟩ (.ofChar '\x7b') = some ⟨.key [] true, stack⟩ := by
    have hblank : isSpace (.ofChar '\x7b') = false := rfl
    have hclose : CodePoint.is (.ofChar '\x7b') ']' = false := rfl
    have hquote : CodePoint.is (.ofChar '\x7b') '"' = false := rfl
    have hlist : CodePoint.is (.ofChar '\x7b') '[' = false := rfl
    have his : CodePoint.is (.ofChar '\x7b') '\x7b' = true := rfl
    simp [step, begin, hblank, hclose, hquote, hlist, his, hroom]
  cases entries with
  | nil =>
    have htext : write floatText indent level (.dict []) = [.ofChar '\x7b', .ofChar '\x7d'] := rfl
    have hclose : step py ⟨.key [] true, stack⟩ (.ofChar '\x7d') = some ⟨.complete (.dict []), stack⟩ := rfl
    exact ⟨_, by rw [htext, feed_cons hopen, feed_cons hclose, feed_nil], .complete⟩
  | cons e entries =>
    obtain ⟨key, v⟩ := e
    have hblanks : feed py ⟨.key [] true, stack⟩ (newline indent (level + 1)) = some ⟨.key [] true, stack⟩ :=
      feed_blanks (skipsBlanks_key [] true stack) (isSpace_newline indent (level + 1))
    obtain ⟨s, hs, hended⟩ := readBack_entry (level + 1) (h (key, v) List.mem_cons_self)
      (hkeys (key, v) List.mem_cons_self) [] true hdepth
    have hentries := readBack_entries level (fun x hx => hkeys x (List.mem_cons_of_mem _ hx))
      (fun x hx => h x (List.mem_cons_of_mem _ hx)) hnodup hended hdepth
    refine ⟨_, ?_, .complete⟩
    simp only [write, List.cons_append, List.append_assoc] at hs hentries ⊢
    rw [feed_cons hopen, feed_append hblanks, ← List.append_assoc (Str.ofString ": "), ← List.append_assoc (writeString key)]
    rw [feed_append (by simpa only [List.append_assoc] using hs), hentries]
    rfl

/-- The integers of a list are those of its items. -/
theorem mem_itemInts {n : Int} {items : List Value} : n ∈ itemInts items ↔ ∃ v ∈ items, n ∈ ints v := by
  induction items with
  | nil => simp [itemInts]
  | cons v items ih => simp [itemInts, ih]

/-- The integers of a dictionary are those of its values. -/
theorem mem_entryInts {n : Int} {entries : List (Str × Value)} : n ∈ entryInts entries ↔ ∃ e ∈ entries, n ∈ ints e.2 := by
  induction entries with
  | nil => simp [entryInts]
  | cons e entries ih => simp [entryInts, ih]

/-- The text of a plain document is read back, if its integers can be printed. -/
theorem Plain.readBack {depth : Nat} {v : Value} (h : Plain depth v) (hints : ∀ n ∈ ints v, py.Printable n) :
    ReadBack py floatText indent depth v := by
  induction h with
  | none =>
    intro level closable stack _
    exact ⟨_, by cases closable <;> rfl, .complete⟩
  | bool b =>
    intro level closable stack _
    exact ⟨_, by cases closable <;> cases b <;> rfl, .complete⟩
  | int n => exact readBack_int (hints n (List.mem_singleton_self n))
  | @str _ s hs =>
    intro level closable stack _
    have hquote : step py ⟨.value closable, stack⟩ (.ofChar '"') = some ⟨.string .none [] .none, stack⟩ := by
      cases closable <;> rfl
    refine ⟨_, ?_, .complete⟩
    rw [write, writeString, List.cons_append, feed_cons hquote, feed_stringText .none stack hs]
  | list _ ih => exact readBack_list fun v hv => ih v hv fun n hn => hints n (mem_itemInts.mpr ⟨v, hv, hn⟩)
  | dict hnodup hkeys _ ih =>
    exact readBack_dict hnodup hkeys fun e he => ih e he fun n hn => hints n (mem_entryInts.mpr ⟨e, he, hn⟩)

/-- A document is written exactly when its integers can be printed. -/
theorem dumps_ok_iff {v : Value} {doc : Str} :
    dumps py indent v = .ok doc ↔ (∀ n ∈ ints v, py.Printable n) ∧ doc = write py.floatText indent 0 v := by
  unfold dumps
  by_cases h : ∀ n ∈ ints v, py.Printable n
  · rw [if_pos h, Except.ok.injEq]
    exact ⟨fun hdoc => ⟨h, hdoc.symm⟩, fun hboth => hboth.2.symm⟩
  · rw [if_neg h]
    exact ⟨nofun, fun hboth => absurd hboth.1 h⟩

/-- What `dumps` writes of a plain document, `loads` reads back, whatever the layout. -/
theorem loads_dumps {depth : Nat} {v : Value} {doc : Str} (h : Plain depth v) (hdepth : depth ≤ py.maxDepth)
    (hdoc : dumps py indent v = .ok doc) : loads py doc = .ok v := by
  obtain ⟨hints, rfl⟩ := dumps_ok_iff.mp hdoc
  obtain ⟨s, hs, hended⟩ := h.readBack hints 0 false [] (by simpa using hdepth)
  rw [loads_eq, hs, Option.bind_some, hended.finish]

end Documents

end Py.Json
