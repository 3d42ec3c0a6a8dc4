import ArsSolana.Library.Python.Json

/-!
# `json.dumps`

The writer with `ensure_ascii`, its default: on one line, or with an indentation. Text outside ASCII is written as `\u` escapes, a
character beyond the basic plane as two. How a float is written is a parameter.
-/

namespace Py.Json

/-! ## Strings -/

def hexDigit (n : Nat) : CodePoint := if n % 16 < 10 then ⟨48 + n % 16, by omega⟩ else ⟨87 + n % 16, by omega⟩

/-- `'\\u{0:04x}'.format(n)`. -/
def unicodeEscape (n : Nat) : Str :=
  Str.ofString "\\u" ++ [hexDigit (n / 4096), hexDigit (n / 256), hexDigit (n / 16), hexDigit n]

/-- The first escape of a character beyond the basic plane. -/
def highSurrogate (c : CodePoint) : Nat := 0xD800 + (c.val - 0x10000) / 0x400

/-- The second one. -/
def lowSurrogate (c : CodePoint) : Nat := 0xDC00 + (c.val - 0x10000) % 0x400

def escapeChar (c : CodePoint) : Str :=
  if c.is '"' ∨ c.is '\\' then [.ofChar '\\', c]
  else if c.is '\n' then Str.ofString "\\n"
  else if c.is '\r' then Str.ofString "\\r"
  else if c.is '\t' then Str.ofString "\\t"
  else if c.is '\x0c' then Str.ofString "\\f"
  else if c.is '\x08' then Str.ofString "\\b"
  else if 32 ≤ c.val ∧ c.val ≤ 126 then [c]
  else if c.val < 0x10000 then unicodeEscape c.val
  else unicodeEscape (highSurrogate c) ++ unicodeEscape (lowSurrogate c)

def writeString (s : Str) : Str := .ofChar '"' :: s.flatMap escapeChar ++ [.ofChar '"']

/-! ## Documents -/

/-- The new line before an item of a level, none without an indentation. -/
def newline (indent : Option Nat) (level : Nat) : Str :=
  match indent with
  | none => []
  | some n => .ofChar '\n' :: List.replicate (n * level) (.ofChar ' ')

/-- What stands between two items. -/
def separator (indent : Option Nat) (level : Nat) : Str :=
  .ofChar ',' :: if indent.isNone then [.ofChar ' '] else newline indent level

section

variable (floatText : Float → Str) (indent : Option Nat)

mutual

def write (level : Nat) : Value → Str
  | .none => Str.ofString "null"
  | .bool b => Str.ofString (if b then "true" else "false")
  | .int n => Str.ofString (toString n)
  | .float x => floatText x
  | .str s => writeString s
  | .list [] => Str.ofString "[]"
  | .list (v :: items) =>
    .ofChar '[' :: newline indent (level + 1) ++ write (level + 1) v ++ writeItems (level + 1) items ++ newline indent level ++
      [.ofChar ']']
  | .dict [] => Str.ofString "\x7b\x7d"
  | .dict ((key, v) :: entries) =>
    .ofChar '\x7b' :: newline indent (level + 1) ++ writeString key ++ Str.ofString ": " ++ write (level + 1) v ++
      writeEntries (level + 1) entries ++ newline indent level ++ [.ofChar '\x7d']

/-- The items after the first one. -/
def writeItems (level : Nat) : List Value → Str
  | [] => []
  | v :: items => separator indent level ++ write level v ++ writeItems level items

/-- The entries after the first one. -/
def writeEntries (level : Nat) : List (Str × Value) → Str
  | [] => []
  | (key, v) :: entries =>
    separator indent level ++ writeString key ++ Str.ofString ": " ++ write level v ++ writeEntries level entries

end

end

mutual

/-- The integers of a document. -/
def ints : Value → List Int
  | .int n => [n]
  | .list items => itemInts items
  | .dict entries => entryInts entries
  | _ => []

def itemInts : List Value → List Int
  | [] => []
  | v :: items => ints v ++ itemInts items

def entryInts : List (Str × Value) → List Int
  | [] => []
  | (_, v) :: entries => ints v ++ entryInts entries

end

/-- `json.dumps(v, indent=indent)`. The documents of a program are nested far less deep than the interpreter allows. -/
def dumps (py : Interpreter) (indent : Option Nat) (v : Value) : Except Exception Str :=
  if ∀ n ∈ ints v, py.Printable n then .ok (write py.floatText indent 0 v)
  else .error ⟨.valueError, s!"Exceeds the limit ({py.maxStrDigits} digits) for integer string conversion; use sys.set_int_max_str_digits() to increase the limit"⟩

end Py.Json
