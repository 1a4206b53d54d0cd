import FunctionBindings.Binding.Spec
import FunctionBindings.Decimal.Layout
import FunctionBindings.Model.Attribute
import FunctionBindings.Text.Lowercase

/-!
# Properties of descriptors

The arguments of an attribute become properties of its descriptor: positional arguments under the
names of the constructor's parameters, then named arguments in order, all keys in camel case. The
keys of the descriptor's own members are reserved, and null and types have no text; such arguments
are left out. A key that comes again gets the later value at the earlier place.
-/

namespace FunctionBindings

/-- The keys of a descriptor's own members. -/
def reservedKeys : List String := ["name", "type", "direction", "dataType"]

/-- True of a text of two or more characters that starts and ends with a double quote. -/
def isQuotedText (cs : List Char) : Bool :=
  2 ≤ cs.length && cs.head? == some '"' && cs.getLast? == some '"'

/-- A text is in quotes if it is made of two of them and what is between them. -/
theorem isQuotedText_iff {cs : List Char} :
    isQuotedText cs ↔ ∃ inner, cs = '"' :: (inner ++ ['"']) := by
  simp only [isQuotedText, Bool.and_eq_true, decide_eq_true_eq, beq_iff_eq,
    List.getLast?_eq_some_iff]
  constructor
  · rintro ⟨⟨hlength, hhead⟩, before, rfl⟩
    cases before with
    | nil => exact absurd hlength (by decide)
    | cons c inner =>
        obtain rfl := Option.some.inj hhead
        exact ⟨inner, rfl⟩
  · rintro ⟨inner, rfl⟩
    exact ⟨⟨by simp, rfl⟩, '"' :: inner, rfl⟩

/-- A text without its first and last character. -/
def unquotedText (cs : List Char) : List Char :=
  cs.tail.dropLast

namespace Scalar

/-- The text of a scalar; a quoted string loses its quotes, and null has no text. -/
def text? : Scalar → Option String
  | .string content =>
      let cs := content.toList
      some (if isQuotedText cs then String.ofList (unquotedText cs) else content)
  | .bool true => some "true"
  | .bool false => some "false"
  | .int n => some (String.ofList (Decimal.intText n.toInt))
  | .float x => some (String.ofList (Decimal.plainText x))
  | .null => none

end Scalar

namespace Constant

/-- The text of a constant; types and arrays have none. -/
def text? : Constant → Option String
  | .scalar value => value.text?
  | .member name => some (Text.lastSegment name)
  | .typeOf _ => none
  | .array _ => none

/-- The property of a constant: a quoted string is a literal, an array is the list of its texts. -/
def property? : Constant → Option PropertyValue
  | .scalar (.string content) =>
      if isQuotedText content.toList then some (.literal content) else some (.text content)
  | .array items => some (.list (items.filterMap text?))
  | other => other.text?.map .text

end Constant

namespace Attribute

/-- The arguments of an attribute under their names: positional ones under the parameters of the
constructor that they belong to, then the named ones. -/
def argumentEntries (attr : Attribute) (spec : BindingSpec) : List (String × Constant) :=
  let params := (spec.constructorForArguments? attr.arguments).getD []
  params.zip attr.arguments ++
    attr.namedArguments.map fun argument ↦ (argument.name, argument.value)

/-- The property that a named argument becomes, if it becomes one. -/
def propertyEntry? (entry : String × Constant) : Option (String × PropertyValue) :=
  let key := Text.camelCase entry.1
  if reservedKeys.contains key then none
  else entry.2.property?.map fun value ↦ (key, value)

/-- The properties of an attribute's descriptor. -/
def properties (attr : Attribute) (spec : BindingSpec) : Properties :=
  .ofList ((attr.argumentEntries spec).filterMap propertyEntry?)

end Attribute

end FunctionBindings
