import FunctionBindings.Model.Constant
import FunctionBindings.Model.Record

/-!
# What attributes bind

A spec says what one attribute binds: the binding type, the kind, and the constructors that the
attribute's arguments may belong to. Constructors are chosen by the number of arguments
(`constructorFor?`) and, among several of that number, by which arguments are members of
enumerations (`constructorForArguments?`).
-/

namespace FunctionBindings

/-- What a binding does. -/
inductive BindingKind where
  | trigger
  | input
  | output
  deriving DecidableEq, Repr, Inhabited

/-- Only outputs carry data out of a function. -/
def BindingKind.direction : BindingKind → Direction
  | .trigger => .input
  | .input => .input
  | .output => .output

/-- What one attribute binds. -/
structure BindingSpec where
  /-- The simple name of the attribute. -/
  attributeName : String
  /-- The binding type that descriptors name. -/
  bindingType : String
  kind : BindingKind
  /-- The parameter names of each constructor. -/
  constructors : List (List String)
  /-- The parameters that take members of enumerations. -/
  enumParams : List String
  deriving DecidableEq, Repr, Inhabited

namespace BindingSpec

/-- The attribute of an HTTP trigger. -/
def httpTriggerName : String := "HttpTrigger"

/-- The direction of a spec's bindings. -/
def direction (spec : BindingSpec) : Direction := spec.kind.direction

/-- True of the spec of an HTTP trigger. -/
def isHttpTrigger (spec : BindingSpec) : Bool :=
  spec.kind == .trigger && spec.attributeName == httpTriggerName

/-- The first of the shortest lists in a list of lists. -/
def firstShortest? : List (List String) → Option (List String)
  | [] => none
  | c :: cs =>
      match firstShortest? cs with
      | none => some c
      | some d => if d.length < c.length then some d else some c

/-- The constructor for a number of arguments: the first with as many parameters, otherwise the
first of the shortest ones with more. A spec without constructors takes no arguments. -/
def constructorFor? (spec : BindingSpec) (count : Nat) : Option (List String) :=
  if spec.constructors.isEmpty then
    if count = 0 then some [] else none
  else
    match spec.constructors.find? (·.length = count) with
    | some params => some params
    | none => firstShortest? (spec.constructors.filter (count < ·.length))

/-- True if the parameters that take members of enumerations stand where such arguments do. -/
def fits (spec : BindingSpec) (params : List String) (arguments : List Constant) : Bool :=
  (params.zip arguments).all fun entry ↦ spec.enumParams.contains entry.1 == entry.2.isMember

/-- The constructor for arguments: the first with as many parameters that fits them, otherwise the
one for their number. -/
def constructorForArguments? (spec : BindingSpec) (arguments : List Constant) :
    Option (List String) :=
  match spec.constructors.find? fun params ↦
      params.length == arguments.length && spec.fits params arguments with
  | some params => some params
  | none => spec.constructorFor? arguments.length

end BindingSpec

end FunctionBindings
