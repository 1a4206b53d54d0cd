import FunctionBindings.Binding.Catalog
import FunctionBindings.Proofs.Binding.ConstructorChoice
import FunctionBindings.Proofs.Generation.RenderedConstants
import FunctionBindings.Proofs.Tables

/-!
# Properties of an attribute

The arguments of an attribute are entered as properties one after the other, the positional ones
before the named ones (`Attribute.HasEntries`). `Attribute.IsEnteredAs` says what an argument is
entered as: its name in camel case with its rendered value. An argument is dropped if its key is
reserved or its value is not rendered. What is kept (`Attribute.Keeps`) decides alone which keys
there are, in which order, and what their values are. Main statement: `properties_of_kept`.
-/

namespace FunctionBindings

namespace Attribute

/-- `HasEntries attr spec entries` says that these are the arguments of the attribute under their
names: the positional ones under the parameters of the constructor that is chosen for them, and then
the named ones. Without a constructor, the positional ones have no names and are left out. -/
inductive HasEntries (attr : Attribute) (spec : BindingSpec) : List (String × Constant) → Prop where
  | chosen {params : List String} : spec.Chooses attr.arguments params →
      HasEntries attr spec (params.zip attr.arguments ++
        attr.namedArguments.map fun argument ↦ (argument.name, argument.value))
  | unchosen : (∀ params, ¬ spec.Chooses attr.arguments params) →
      HasEntries attr spec
        (attr.namedArguments.map fun argument ↦ (argument.name, argument.value))

/-- True of an argument and the property that it is entered as: the key is the argument's name in
camel case and not reserved, and the value is what the argument is rendered as. -/
structure IsEnteredAs (entry : String × Constant) (property : String × PropertyValue) : Prop where
  key : Text.IsCamelCase entry.1 property.1
  notReserved : property.1 ∉ ["name", "type", "direction", "dataType"]
  value : entry.2.RendersAs property.2

/-- `Keeps attr spec kept` says what is kept of the arguments of the attribute: the properties that
they are entered as, in order, where they are entered at all. -/
def Keeps (attr : Attribute) (spec : BindingSpec) (kept : List (String × PropertyValue)) : Prop :=
  ∃ entries, attr.HasEntries spec entries ∧ KeptBy IsEnteredAs entries kept

variable {attr other : Attribute} {spec otherSpec : BindingSpec} {entry : String × Constant}

/-- An argument becomes the property that it is entered as, or none. -/
theorem propertyEntry?_eq_some_iff {property : String × PropertyValue} :
    propertyEntry? entry = some property ↔ IsEnteredAs entry property := by
  obtain ⟨key, value⟩ := property
  have hparts : propertyEntry? entry = some (key, value) ↔
      Text.camelCase entry.1 ∉ reservedKeys ∧ Text.camelCase entry.1 = key ∧
        entry.2.property? = some value := by
    unfold propertyEntry?
    by_cases hreserved : Text.camelCase entry.1 ∈ reservedKeys <;>
      cases entry.2.property? <;> simp [hreserved]
  rw [hparts, Text.camelCase_eq_iff, Constant.property?_eq_some_iff]
  constructor
  · rintro ⟨hfree, hkey, hvalue⟩
    exact ⟨hkey, Text.camelCase_eq_iff.2 hkey ▸ hfree, hvalue⟩
  · rintro ⟨hkey, hfree, hvalue⟩
    exact ⟨(Text.camelCase_eq_iff.2 hkey).symm ▸ hfree, hkey, hvalue⟩

end Attribute

namespace OrderOutput

/-- An output of orders, whose constructor takes a path and a store. -/
def type : AttributeType :=
  (AttributeType.of "OrderOutput" "OutputBinding").withConstructor ["Path", "Store"]

/-- What a catalog knows about the output if it is declared. -/
def spec : BindingSpec where
  attributeName := "OrderOutput"
  bindingType := "Order"
  kind := .output
  constructors := [["Path", "Store"]]
  enumParams := []

/-- A use of the output, with some named arguments. -/
def attr (named : List NamedArgument) : Attribute :=
  { Attribute.named "OrderOutput" with
    arguments := [.string "orders/a", .member "Store.Hot"]
    namedArguments := named }

end OrderOutput

end FunctionBindings
