import ArsSolana.Library.Outcome
import Mathlib

/-!
# Values of Python programs that read JSON

The built-in types a JSON document becomes, what they are worth as conditions, and the two conversions between `int` and text.
What depends on the interpreter (its limits, its Unicode tables, the wording of some errors) is a parameter.
-/

namespace Py

/-! ## Text -/

/-- A character of a `str`: any code point, lone surrogates included. -/
abbrev CodePoint := Fin 0x110000

abbrev Str := List CodePoint

def CodePoint.ofChar (c : Char) : CodePoint :=
  ⟨c.toNat, by
    have h := c.valid
    simp only [UInt32.isValidChar, Nat.isValidChar] at h
    simp only [Char.toNat]
    omega⟩

def Str.ofString (s : String) : Str := s.toList.map CodePoint.ofChar

/-- The code point is this character. -/
def CodePoint.is (c : CodePoint) (char : Char) : Bool := c.val = char.toNat

/-! ## Exceptions -/

inductive ExceptionType where
  | valueError | typeError | attributeError | overflowError | other (name : String)
  deriving DecidableEq, Repr

structure Exception where
  type : ExceptionType
  message : String
  deriving DecidableEq, Repr

/-! ## The interpreter -/

/-- A binary64 number: `mantissa * 2 ^ exponent`, with its sign. -/
inductive Float where
  | nan
  | infinity (negative : Bool)
  | finite (negative : Bool) (mantissa : Nat) (exponent : Int)
  deriving DecidableEq, Repr

structure Interpreter where
  /-- `sys.get_int_max_str_digits()`, zero for no limit. -/
  maxStrDigits : Nat
  /-- How many lists and dictionaries the JSON reader may nest. -/
  maxDepth : Nat
  /-- `str.isspace` and the decimal value of the characters from 127 on. -/
  isSpace : CodePoint → Bool
  decimal : CodePoint → Option (Fin 10)
  repr : Str → String
  /-- What `json.dumps` writes of a float. -/
  floatText : Float → Str
  /-- The text of what `json.loads` raises for a document it refuses. -/
  jsonErrorText : Str → String
  /-- The text of what `bytes.decode("utf-8")` raises for bytes it refuses. -/
  utf8ErrorText : List UInt8 → String

/-- The default limits, with the characters up to 127 only, and as if zero were the only float. -/
instance : Inhabited Interpreter where
  default := {
    maxStrDigits := 4300
    maxDepth := 1000
    isSpace _ := false
    decimal _ := none
    repr _ := "''"
    floatText _ := Str.ofString "0.0"
    jsonErrorText _ := ""
    utf8ErrorText _ := "" }

/-! ## Values -/

/-- What a JSON document becomes. A key of a dictionary stands once; of two, only the first would count. -/
inductive Value where
  | none
  | bool (b : Bool)
  | int (n : Int)
  | float (x : Float)
  | str (s : Str)
  | list (items : List Value)
  | dict (entries : List (Str × Value))

namespace Value

/-- What a value is worth as a condition. -/
def truthy : Value → Bool
  | none => false
  | bool b => b
  | int n => n ≠ 0
  | float (.finite _ mantissa _) => mantissa ≠ 0
  | float _ => true
  | str s => !s.isEmpty
  | list items => !items.isEmpty
  | dict entries => !entries.isEmpty

/-- `x or y`. -/
def orElse (x y : Value) : Value := if x.truthy then x else y

/-- `type(x).__name__`. -/
def typeName : Value → String
  | none => "NoneType"
  | bool _ => "bool"
  | int _ => "int"
  | float _ => "float"
  | str _ => "str"
  | list _ => "list"
  | dict _ => "dict"

end Value

/-- `d.get(key)` of a dictionary. -/
def get (entries : List (Str × Value)) (key : String) : Value :=
  ((entries.find? fun e => e.1 = Str.ofString key).map (·.2)).getD .none

/-- `x.get(key)`: only a dictionary has the method. -/
def Value.get : Value → String → Except Exception Value
  | dict entries, key => .ok (Py.get entries key)
  | x, _ => .error ⟨.attributeError, s!"'{x.typeName}' object has no attribute 'get'"⟩

/-! ## Integers and text -/

namespace Interpreter

variable (py : Interpreter)

/-- A number of digits is within the limit of the conversions between `int` and `str`. -/
def Within (digits : Nat) : Prop := py.maxStrDigits = 0 ∨ digits ≤ py.maxStrDigits

instance (digits : Nat) : Decidable (py.Within digits) := inferInstanceAs (Decidable (_ ∨ _))

/-- The integer can be written in decimal. -/
def Printable (n : Int) : Prop := py.Within (Nat.toDigits 10 n.natAbs).length

instance (n : Int) : Decidable (py.Printable n) := inferInstanceAs (Decidable (py.Within _))

/-- `str(n)`, also in an f-string. -/
def strOfInt (n : Int) : Except Exception String :=
  if py.Printable n then .ok (toString n)
  else .error ⟨.valueError, s!"Exceeds the limit ({py.maxStrDigits} digits) for integer string conversion; use sys.set_int_max_str_digits() to increase the limit"⟩

/-- An integer is written exactly when its digits are within the limit. -/
theorem strOfInt_isOk_iff {n : Int} : (∃ s, py.strOfInt n = .ok s) ↔ py.Printable n := by
  by_cases h : py.Printable n <;> simp [strOfInt, h]

/-- The error is a `ValueError`. -/
theorem strOfInt_error {n : Int} {e : Exception} (h : py.strOfInt n = .error e) : e.type = .valueError := by
  unfold strOfInt at h
  split at h
  · cases h
  · cases h
    rfl

/-- White space around the digits of `int(s)`. -/
def space (c : CodePoint) : Bool := if c.val < 127 then c.val = 32 ∨ (9 ≤ c.val ∧ c.val ≤ 13) else py.isSpace c

/-- The value of a decimal digit of `int(s)`. -/
def digit (c : CodePoint) : Option Nat :=
  if c.val < 127 then (if 48 ≤ c.val ∧ c.val ≤ 57 then some (c.val - 48) else none) else (py.decimal c).map (·.val)

/-- Digits with single underscores between them, the value and the number of the digits read so far being given. -/
def digits : Nat → Nat → Str → Option (Nat × Nat)
  | value, count, [] => if count = 0 then none else some (value, count)
  | value, count, c :: s =>
    match py.digit c with
    | some d => digits (10 * value + d) (count + 1) s
    | none =>
      match c.is '_' && count ≠ 0, s with
      | true, c' :: s' =>
        match py.digit c' with
        | some d => digits (10 * value + d) (count + 1) s'
        | none => none
      | _, _ => none

/-- `int(s)`: white space, a sign, digits, white space. -/
def intOfStr (s : Str) : Except Exception Int :=
  let trimmed := ((s.dropWhile py.space).reverse.dropWhile py.space).reverse
  let (negative, unsigned) :=
    match trimmed with
    | c :: rest => if c.is '-' then (true, rest) else if c.is '+' then (false, rest) else (false, trimmed)
    | [] => (false, [])
  match py.digits 0 0 unsigned with
  | none => .error ⟨.valueError, s!"invalid literal for int() with base 10: {py.repr s}"⟩
  | some (value, count) =>
    if py.Within count then .ok (if negative then -value else value)
    else .error ⟨.valueError, s!"Exceeds the limit ({py.maxStrDigits} digits) for integer string conversion: value has {count} digits; use sys.set_int_max_str_digits() to increase the limit"⟩

/-- `int(x)` for a float: the integer part, towards zero. -/
def intOfFloat : Float → Except Exception Int
  | .nan => .error ⟨.valueError, "cannot convert float NaN to integer"⟩
  | .infinity _ => .error ⟨.overflowError, "cannot convert float infinity to integer"⟩
  | .finite negative mantissa exponent =>
    let magnitude : Nat := if 0 ≤ exponent then mantissa * 2 ^ exponent.toNat else mantissa / 2 ^ (-exponent).toNat
    .ok (if negative then -magnitude else magnitude)

/-- `int(x)`. -/
def toInt : Value → Except Exception Int
  | .bool b => .ok (if b then 1 else 0)
  | .int n => .ok n
  | .float x => intOfFloat x
  | .str s => py.intOfStr s
  | x => .error ⟨.typeError, s!"int() argument must be a string, a bytes-like object or a real number, not '{x.typeName}'"⟩

end Interpreter

end Py
