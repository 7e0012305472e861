import YrSandbox.Python.Json
import YrSandbox.Python.Uuid

/-! # JSON in a running interpreter

What `json.loads` and `json.dumps` do with nested values, and which values can be the key
of a dictionary. -/

namespace YrSandbox.Python

namespace Json

mutual

def depth : Json → Nat
  | .array items => depthItems items + 1
  | .object fields => depthFields fields + 1
  | .null | .bool _ | .int _ | .float _ | .str _ => 0

def depthItems : List Json → Nat
  | [] => 0
  | item :: items => max item.depth (depthItems items)

def depthFields : List (String × Json) → Nat
  | [] => 0
  | field :: fields => max field.2.depth (depthFields fields)

end

def hashable : Json → Bool
  | .array _ | .object _ => false
  | .null | .bool _ | .int _ | .float _ | .str _ => true

theorem depth_hashable {value : Json} (hashable : value.hashable = true) :
    value.depth = 0 := by
  cases value <;> first | rfl | cases hashable

end Json

/-- A key of a dictionary. Numbers that are equal are one key, `True` is 1 and `1.0` is
too. -/
inductive Key
  | null
  | int (value : Int)
  | float (value : String)
  | str (value : Text)
deriving DecidableEq, Repr

/-- What the interpreter brings to the receive loop: `json.loads`, the text that
`json.dumps` returns, the depth beyond which it raises `RecursionError` instead, which the
frames of the client do not reach, and the integer that a float equals, or its `repr`. -/
structure Interpreter where
  loads : String → Except LoadsError Json
  dumps : Json → String
  nesting : Nat
  framesNest : 3 ≤ nesting
  floatValue : String → Int ⊕ String
  unicode : UnicodeData
  builtins : Builtins

/-- The key that a value is, `none` for a list or a dictionary. -/
def Interpreter.key? (interpreter : Interpreter) : Json → Option Key
  | .null => some .null
  | .bool value => some (.int (if value then 1 else 0))
  | .int value => some (.int value)
  | .float literal =>
      some (match interpreter.floatValue literal with
      | .inl value => .int value
      | .inr value => .float value)
  | .str value => some (.str value.toList)
  | .array _ | .object _ => none

theorem Interpreter.isSome_key? (interpreter : Interpreter) (value : Json) :
    (interpreter.key? value).isSome = value.hashable := by
  cases value <;> rfl

end YrSandbox.Python
