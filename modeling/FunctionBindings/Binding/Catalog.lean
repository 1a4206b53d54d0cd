import FunctionBindings.Binding.Spec
import FunctionBindings.Model.Program

/-!
# The catalog of bindings

The catalog maps the simple names of attributes to what they bind. It starts with the bindings of
the standard extensions; the attribute types that a program declares are added if their immediate
ancestor marks a direction. Attribute types marked as in-process bindings are remembered as legacy.
-/

namespace FunctionBindings

/-- What attributes bind, by their simple names, and which are legacy. -/
structure Catalog where
  specs : Table String BindingSpec
  legacy : List String
  deriving DecidableEq

namespace Catalog

/-- The catalog without entries. -/
def empty : Catalog := ⟨∅, []⟩

/-- The ancestors that mark a direction, by simple name. -/
def directionMarkers : List (String × BindingKind) :=
  [("TriggerBinding", .trigger), ("InputBinding", .input), ("OutputBinding", .output)]

/-- The attribute that marks in-process bindings. -/
def legacyMarker : String := "Microsoft.Azure.WebJobs.Description.Binding"

/-- The kind that an ancestor marks. -/
def markedKind? (base : String) : Option BindingKind :=
  (directionMarkers.find? (·.1 = simpleAttributeName base)).map Prod.snd

/-- The binding type of an attribute: its simple name without the ending `Input` or `Output`. -/
def bindingTypeOf (simpleName : String) : String :=
  match Text.dropEnding? "Input" simpleName with
  | some rest => rest
  | none => (Text.dropEnding? "Output" simpleName).getD simpleName

/-- Enter a spec for its attribute; it replaces an earlier one. -/
def register (catalog : Catalog) (spec : BindingSpec) : Catalog :=
  { catalog with specs := catalog.specs.insert spec.attributeName spec }

/-- True of an attribute type that is marked as an in-process binding. -/
def isMarkedLegacy (type : AttributeType) : Bool :=
  type.markers.any fun marker ↦ simpleAttributeName marker == simpleAttributeName legacyMarker

/-- The spec that an attribute type declares, if its ancestor marks a direction. -/
def declaredSpec? (type : AttributeType) : Option BindingSpec :=
  (type.base.bind markedKind?).map fun kind ↦
    { attributeName := type.simpleName
      bindingType := bindingTypeOf type.simpleName
      kind
      constructors := type.constructors
      enumParams := [] }

/-- Remember an attribute type's name as legacy if it is marked so. -/
def noteLegacy (catalog : Catalog) (type : AttributeType) : Catalog :=
  if isMarkedLegacy type ∧ type.simpleName ∉ catalog.legacy then
    { catalog with legacy := catalog.legacy ++ [type.simpleName] }
  else catalog

/-- Take in a declared attribute type. -/
def declare (catalog : Catalog) (type : AttributeType) : Catalog :=
  let noted := catalog.noteLegacy type
  match declaredSpec? type with
  | some spec => noted.register spec
  | none => noted

/-- What an attribute name binds. -/
def lookup? (catalog : Catalog) (attributeName : String) : Option BindingSpec :=
  catalog.specs.get? (simpleAttributeName attributeName)

/-- True of the name of an in-process binding. -/
def isLegacy (catalog : Catalog) (attributeName : String) : Bool :=
  catalog.legacy.contains (simpleAttributeName attributeName)

/-- The number of attributes that bind something. -/
def size (catalog : Catalog) : Nat := catalog.specs.size

/-- True if no attribute binds anything. -/
def isEmpty (catalog : Catalog) : Bool := catalog.specs.isEmpty

end Catalog

end FunctionBindings
