import ArsSolana.Library.OrderedMap
import ArsSolana.Library.Python.Value

/-!
# `json.loads`

The reader as a machine that takes one character at a time, with the open lists and dictionaries on a stack. It accepts what
the scanner of the standard library accepts: JSON with the words `NaN`, `Infinity` and `-Infinity`, strings without control
characters, and the last of several values of a key.
-/

namespace Py.Json

/-! ## Numbers -/

/-- The nearest binary64 number to `p / q`, ties to even. -/
def roundRatio (negative : Bool) (p q : Nat) : Float :=
  if p = 0 then .finite negative 0 0
  else
    -- `p / q` is at least `2 ^ k` and less than `2 ^ (k + 1)`
    let guess : Int := Nat.log2 p - Nat.log2 q
    let below := if 0 ≤ guess then q * 2 ^ guess.toNat ≤ p else q ≤ p * 2 ^ (-guess).toNat
    let k := if below then guess else guess - 1
    let exponent := max (-1074) (k - 52)
    let num := if 0 ≤ exponent then p else p * 2 ^ (-exponent).toNat
    let den := if 0 ≤ exponent then q * 2 ^ exponent.toNat else q
    let floor := num / den
    let rest := num % den
    let mantissa := if 2 * rest < den then floor else if den < 2 * rest then floor + 1 else floor + floor % 2
    if 971 < exponent ∨ (exponent = 971 ∧ 2 ^ 53 ≤ mantissa) then .infinity negative
    else .finite negative mantissa exponent

def digitValue (c : CodePoint) : Nat := c.val - 48

def isDigit (c : CodePoint) : Bool := 48 ≤ c.val ∧ c.val ≤ 57

/-- The number of a run of digits. -/
def ofDigits (ds : Str) : Nat := ds.foldl (fun n c => 10 * n + digitValue c) 0

/-- Where the text of a number stands. -/
inductive NumberPart where
  | minus | zero | integer | point | fraction | exponentMark | exponentSign | exponent
  deriving DecidableEq, Repr

/-- The part the next character belongs to, `none` when the number ends before it. -/
def NumberPart.next (c : CodePoint) : NumberPart → Option NumberPart
  | minus => if c.is '0' then some zero else if isDigit c then some integer else none
  | zero => if c.is '.' then some point else if c.is 'e' ∨ c.is 'E' then some exponentMark else none
  | integer =>
    if isDigit c then some integer
    else if c.is '.' then some point
    else if c.is 'e' ∨ c.is 'E' then some exponentMark
    else none
  | point => if isDigit c then some fraction else none
  | fraction => if isDigit c then some fraction else if c.is 'e' ∨ c.is 'E' then some exponentMark else none
  | exponentMark => if c.is '+' ∨ c.is '-' then some exponentSign else if isDigit c then some exponent else none
  | exponentSign => if isDigit c then some exponent else none
  | exponent => if isDigit c then some exponent else none

/-- The value of the text of a number that ends in this part. A text that stops at a sign, a point or an exponent mark leaves a
character no document may go on with. -/
def number (py : Interpreter) (part : NumberPart) (text : Str) : Option Value :=
  let negative := text.head?.any (·.is '-')
  let unsigned := if negative then text.tail else text
  let (mantissa, exponentText) := unsigned.span fun c => !(c.is 'e' || c.is 'E')
  let (whole, fraction) := mantissa.span fun c => !c.is '.'
  match part with
  | .zero | .integer =>
    if py.Within whole.length then some (.int (if negative then -ofDigits whole else ofDigits whole)) else none
  | .fraction | .exponent =>
    let exponentDigits := exponentText.tail
    let exponent : Int :=
      if exponentDigits.head?.any (·.is '-') then -ofDigits exponentDigits.tail
      else if exponentDigits.head?.any (·.is '+') then ofDigits exponentDigits.tail
      else ofDigits exponentDigits
    let scale := exponent - fraction.tail.length
    let digits := ofDigits (whole ++ fraction.tail)
    some (.float (if 0 ≤ scale then roundRatio negative (digits * 10 ^ scale.toNat) 1
      else roundRatio negative digits (10 ^ (-scale).toNat)))
  | _ => none

/-! ## Strings -/

/-- A character of a string, and whether it was written as a `\u` escape. -/
structure Piece where
  escaped : Bool
  code : CodePoint

/-- Two escapes of a surrogate pair are one character. -/
def joinSurrogates : List Piece → Str
  | ⟨true, high⟩ :: ⟨true, low⟩ :: rest =>
    if h : (0xD800 ≤ high.val ∧ high.val < 0xDC00) ∧ 0xDC00 ≤ low.val ∧ low.val < 0xE000 then
      ⟨0x10000 + (high.val - 0xD800) * 0x400 + (low.val - 0xDC00), by omega⟩ :: joinSurrogates rest
    else high :: joinSurrogates (⟨true, low⟩ :: rest)
  | p :: rest => p.code :: joinSurrogates rest
  | [] => []

def hexValue (c : CodePoint) : Option Nat :=
  if isDigit c then some (digitValue c)
  else if 97 ≤ c.val ∧ c.val ≤ 102 then some (c.val - 87)
  else if 65 ≤ c.val ∧ c.val ≤ 70 then some (c.val - 55)
  else none

inductive Escape where
  | none
  | backslash
  /-- After `\u`: the value of the digits so far and how many are missing. -/
  | unicode (value : Fin 0x1000) (missing : Nat)

/-- The characters a backslash stands before. -/
def unescape (c : CodePoint) : Option CodePoint :=
  if c.is '"' ∨ c.is '\\' ∨ c.is '/' then some c
  else if c.is 'b' then some (.ofChar '\x08')
  else if c.is 'f' then some (.ofChar '\x0c')
  else if c.is 'n' then some (.ofChar '\n')
  else if c.is 'r' then some (.ofChar '\r')
  else if c.is 't' then some (.ofChar '\t')
  else none

/-! ## Documents -/

/-- An open list with its items, the latest first, or an open dictionary with its entries and the key of the value being read. -/
inductive Frame where
  | list (items : List Value)
  | dict (entries : List (Str × Value)) (key : Str)

/-- What the reader is in the middle of. -/
inductive Mode where
  /-- A value is due; right after a bracket the list may also close. -/
  | value (closable : Bool)
  /-- A key is due; right after a brace the dictionary may also close. -/
  | key (entries : List (Str × Value)) (closable : Bool)
  /-- In a string, its characters the latest first; a key of the given entries, or a value. -/
  | string (key : Option (List (Str × Value))) (chars : List Piece) (escape : Escape)
  | colon (entries : List (Str × Value)) (key : Str)
  /-- In a number, its characters the latest first. -/
  | number (part : NumberPart) (chars : Str)
  /-- In a word, with what is left of it. -/
  | word (left : List Char) (v : Value)
  /-- A value is complete. -/
  | complete (v : Value)

structure State where
  mode : Mode
  stack : List Frame

def isSpace (c : CodePoint) : Bool := c.is ' ' ∨ c.is '\t' ∨ c.is '\n' ∨ c.is '\r'

variable (py : Interpreter)

/-- Open a list or a dictionary, unless too many are open. -/
def push (frame : Frame) (stack : List Frame) : Option (List Frame) :=
  if stack.length < py.maxDepth then some (frame :: stack) else none

/-- The first character of a value. -/
def begin (c : CodePoint) (stack : List Frame) : Option State :=
  if c.is '"' then some ⟨.string none [] .none, stack⟩
  else if c.is '[' then (push py (.list []) stack).map (⟨.value true, ·⟩)
  else if c.is '{' then if stack.length < py.maxDepth then some ⟨.key [] true, stack⟩ else none
  else if c.is 'n' then some ⟨.word "ull".toList .none, stack⟩
  else if c.is 't' then some ⟨.word "rue".toList (.bool true), stack⟩
  else if c.is 'f' then some ⟨.word "alse".toList (.bool false), stack⟩
  else if c.is 'N' then some ⟨.word "aN".toList (.float .nan), stack⟩
  else if c.is 'I' then some ⟨.word "nfinity".toList (.float (.infinity false)), stack⟩
  else if c.is '-' then some ⟨.number .minus [c], stack⟩
  else if c.is '0' then some ⟨.number .zero [c], stack⟩
  else if isDigit c then some ⟨.number .integer [c], stack⟩
  else none

/-- A character after a complete value. -/
def afterValue (v : Value) (c : CodePoint) : List Frame → Option State
  | stack@(.list items :: rest) =>
    if isSpace c then some ⟨.complete v, stack⟩
    else if c.is ',' then some ⟨.value false, .list (v :: items) :: rest⟩
    else if c.is ']' then some ⟨.complete (.list (v :: items).reverse), rest⟩
    else none
  | stack@(.dict entries key :: rest) =>
    if isSpace c then some ⟨.complete v, stack⟩
    else if c.is ',' then some ⟨.key (OrderedMap.put key v entries) false, rest⟩
    else if c.is '}' then some ⟨.complete (.dict (OrderedMap.put key v entries)), rest⟩
    else none
  | [] => if isSpace c then some ⟨.complete v, []⟩ else none

/-- A character of a string. -/
def inString (key : Option (List (Str × Value))) (chars : List Piece) (c : CodePoint) (stack : List Frame) :
    Escape → Option State
  | .none =>
    if c.is '"' then
      let s := joinSurrogates chars.reverse
      match key with
      | none => some ⟨.complete (.str s), stack⟩
      | some entries => some ⟨.colon entries s, stack⟩
    else if c.is '\\' then some ⟨.string key chars .backslash, stack⟩
    else if c.val < 32 then none
    else some ⟨.string key (⟨false, c⟩ :: chars) .none, stack⟩
  | .backslash =>
    if c.is 'u' then some ⟨.string key chars (.unicode 0 4), stack⟩
    else (unescape c).map fun c => ⟨.string key (⟨false, c⟩ :: chars) .none, stack⟩
  | .unicode value missing => do
    let h ← hexValue c
    let code := 16 * value.val + h
    if missing ≤ 1 then
      if hc : code < 0x110000 then some ⟨.string key (⟨true, ⟨code, hc⟩⟩ :: chars) .none, stack⟩ else none
    else if hc : code < 0x1000 then some ⟨.string key chars (.unicode ⟨code, hc⟩ (missing - 1)), stack⟩
    else none

/-- One character, `none` when no document goes on so. -/
def step (s : State) (c : CodePoint) : Option State :=
  match s.mode with
  | .value closable =>
    if isSpace c then some s
    else if closable ∧ c.is ']' then some ⟨.complete (.list []), s.stack.tail⟩
    else begin py c s.stack
  | .key entries closable =>
    if isSpace c then some s
    else if closable ∧ c.is '}' then some ⟨.complete (.dict []), s.stack⟩
    else if c.is '"' then some ⟨.string (some entries) [] .none, s.stack⟩
    else none
  | .string key chars escape => inString key chars c s.stack escape
  | .colon entries key =>
    if isSpace c then some s
    else if c.is ':' then (push py (.dict entries key) s.stack).map (⟨.value false, ·⟩)
    else none
  | .number part chars =>
    if part = .minus ∧ c.is 'I' then some ⟨.word "nfinity".toList (.float (.infinity true)), s.stack⟩
    else
      match part.next c with
      | some part => some ⟨.number part (c :: chars), s.stack⟩
      | none => do
        let v ← number py part chars.reverse
        afterValue v c s.stack
  | .word left v =>
    match left with
    | [] => none
    | [l] => if c.is l then some ⟨.complete v, s.stack⟩ else none
    | l :: left => if c.is l then some ⟨.word left v, s.stack⟩ else none
  | .complete v => afterValue v c s.stack

/-- The document a state is the end of. -/
def finish (s : State) : Option Value :=
  match s with
  | ⟨.complete v, []⟩ => some v
  | ⟨.number part chars, []⟩ => number py part chars.reverse
  | _ => none

/-- `json.loads(doc)`. A byte order mark is refused like any other character that begins no value. -/
def loads (doc : Str) : Except Exception Value :=
  match (doc.foldlM (step py) ⟨.value false, []⟩).bind (finish py) with
  | some v => .ok v
  | none => .error ⟨.other "JSONDecodeError", py.jsonErrorText doc⟩

end Py.Json
