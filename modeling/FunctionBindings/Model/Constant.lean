/-!
# Constants

The arguments of an attribute are constants: scalars, members of enumerations, types, and arrays of
constants.
-/

namespace FunctionBindings

/-- A literal of a simple type. -/
inductive Scalar where
  | bool (value : Bool)
  | int (value : Int64)
  | float (value : Float)
  | string (text : String)
  | null
  deriving Inhabited

/-- The value of an argument. -/
inductive Constant where
  | scalar (value : Scalar)
  /-- A member of an enumeration, by its name. -/
  | member (name : String)
  /-- A type given as an argument, which carries nothing for a binding. -/
  | typeOf (name : String)
  | array (items : List Constant)
  deriving Inhabited

namespace Constant

/-- The constant of a string. -/
def string (text : String) : Constant := .scalar (.string text)

/-- The text of a string constant. -/
def string? : Constant → Option String
  | .scalar (.string text) => some text
  | _ => none

/-- True of a member of an enumeration. -/
def isMember : Constant → Bool
  | .member _ => true
  | _ => false

end Constant

end FunctionBindings
