import Mathlib.Algebra.Group.Nat.Defs

/-! # JSON values as `json.loads` returns them -/

namespace YrSandbox.Python

/-- A JSON value. Integers are unbounded; a number written with a fraction or an
exponent, `NaN` and the infinities keep their literal. -/
inductive Json
  | null
  | bool (value : Bool)
  | int (value : Int)
  | float (literal : String)
  | str (value : String)
  | array (items : List Json)
  | object (fields : List (String × Json))
deriving Repr, Inhabited

/-- The fields of a `dict`: each key once, in the order of its first
occurrence. -/
abbrev Dict := List (String × Json)

namespace Dict

def get? (fields : Dict) (key : String) : Option Json := fields.lookup key

@[simp] theorem get?_nil (key : String) : get? [] key = none := rfl

end Dict

namespace Json

/-- `value if isinstance(value, dict) else None` -/
def asDict? : Json → Option Dict
  | .object fields => some fields
  | _ => none

/-- `value if isinstance(value, int) else None`, where `True` is 1 -/
def asInt? : Json → Option Int
  | .bool value => some (if value then 1 else 0)
  | .int value => some value
  | _ => none

/-- `value if isinstance(value, dict) else {"value": value}` -/
def asResult : Json → Dict
  | .object fields => fields
  | value => [("value", value)]

def typeName : Json → String
  | .null => "NoneType"
  | .bool _ => "bool"
  | .int _ => "int"
  | .float _ => "float"
  | .str _ => "str"
  | .array _ => "list"
  | .object _ => "dict"

def decimal (text : List Char) : Nat :=
  text.foldl
    (fun value char => if char.isDigit then 10 * value + (char.toNat - 48) else value) 0

/-- A float is zero if its literal is no more than half of the least positive one, which is
`2 ^ -1074`. -/
def roundsToZero (literal : String) : Bool :=
  let isExponent (char : Char) := char = 'e' || char = 'E'
  let mantissa := literal.toList.takeWhile (!isExponent ·)
  let fraction := (mantissa.dropWhile (· ≠ '.')).filter Char.isDigit
  let exponent := (literal.toList.dropWhile (!isExponent ·)).drop 1
  let (up, down) :=
    if exponent.head? = some '-' then (0, decimal exponent) else (decimal exponent, 0)
  mantissa.any Char.isDigit && -- not `NaN` or an infinity
    decide (decimal mantissa * 10 ^ up * 2 ^ 1075 ≤ 10 ^ (fraction.length + down))

def truthy : Json → Bool
  | .null => false
  | .bool value => value
  | .int value => decide (value ≠ 0)
  | .float literal => !roundsToZero literal
  | .str value => decide (value ≠ "")
  | .array items => !items.isEmpty
  | .object fields => !fields.isEmpty

example : ["-0.0", "2e-324", "3e-324", "Infinity"].map (truthy <| .float ·) =
    [false, false, true, true] := by decide +kernel

end Json

/-- What `json.loads` raises: a `JSONDecodeError`; a `ValueError` that is none, for an
integer with too many digits; or a `RecursionError`, for values that are nested too
deeply. -/
inductive LoadsError
  | decodeError (message : String)
  | valueError (message : String)
  | recursionError
deriving DecidableEq, Repr

/-- The built-in conversions where they depend on floating point, on the Unicode
database or on the `repr` of nested values; `none` where `int` raises. -/
structure Builtins where
  intOfStr : String → Option Int
  intOfFloat : String → Option Int
  strOfOther : Json → String

namespace Json

/-- `int(value)`, `none` where it raises. -/
def toInt (builtins : Builtins) : Json → Option Int
  | .bool value => some (if value then 1 else 0)
  | .int value => some value
  | .float literal => builtins.intOfFloat literal
  | .str value => builtins.intOfStr value
  | .null | .array _ | .object _ => none

def toStr (builtins : Builtins) : Json → String
  | .str value => value
  | .int value => toString value
  | .bool value => if value then "True" else "False"
  | .null => "None"
  | value => builtins.strOfOther value

end Json

end YrSandbox.Python
