import FunctionBindings.Table

/-!
# JSON values

A JSON value keeps the members of an object in their order. Numbers are integers or doubles: a
numeral without fraction and exponent that fits 64 bits, signed or unsigned, is an integer, and any
other numeral is a double.
-/

namespace FunctionBindings

/-- A number of a JSON value. -/
inductive Json.Number where
  | int (value : Int)
  | float (value : Float)
  deriving Inhabited

/-- A JSON value. -/
inductive Json where
  | null
  | bool (value : Bool)
  | number (value : Json.Number)
  | string (value : String)
  | array (items : List Json)
  | object (members : List (String × Json))
  deriving Inhabited

namespace Json

/-- The integer as a JSON value. -/
def int (n : Int) : Json := .number (.int n)

/-- The natural number as a JSON value. -/
def nat (n : Nat) : Json := .number (.int n)

/-- The list of strings as a JSON value. -/
def strings (texts : List String) : Json := .array (texts.map .string)

/-- The string, or null. -/
def stringOrNull : Option String → Json
  | some text => .string text
  | none => .null

/-- The member of an object with the given key. -/
def member? (key : String) : Json → Option Json
  | .object members => Entries.get? key members
  | _ => none

/-- The text of a string value. -/
def string? : Json → Option String
  | .string text => some text
  | _ => none

end Json

end FunctionBindings
