import FunctionBindings.Model.Constant.Json
import FunctionBindings.Model.Location
import FunctionBindings.Text.Dotted

/-!
# Attributes

An attribute names its type as it was written: with or without a namespace, with or without the
ending `Attribute`. Names are compared in simple form, which has neither (`simpleAttributeName`).
Programs declare attribute types of their own, which may become bindings.
-/

namespace FunctionBindings

open Json (Reader)

/-- The last segment of a name without the ending `Attribute`, unless the ending is all of it. -/
def simpleAttributeName (name : String) : String :=
  let last := Text.lastSegment name
  (Text.dropEnding? "Attribute" last).getD last

/-- An argument that is given by name. -/
structure NamedArgument where
  name : String
  value : Constant
  deriving Inhabited

/-- An attribute of a method, parameter or member, with its arguments in source order. -/
structure Attribute where
  name : String
  arguments : List Constant
  namedArguments : List NamedArgument
  span : Span
  deriving Inhabited

/-- A declaration of an attribute type. -/
structure AttributeType where
  name : String
  /-- The immediate ancestor. -/
  base : Option String
  /-- The parameter names of each constructor. -/
  constructors : List (List String)
  /-- The attributes placed on the attribute type itself, by name. -/
  markers : List String
  span : Span
  deriving DecidableEq, Repr, Inhabited

namespace NamedArgument

/-- The JSON form of a named argument. -/
def toJson (argument : NamedArgument) : Json :=
  .object [("name", .string argument.name), ("value", argument.value.toJson)]

/-- Read a named argument. -/
def read : Reader NamedArgument :=
  Json.readRecord "struct NamedArg" ⟨"", .scalar .null⟩
    [.of "name" .required Json.readString fun argument name ↦ { argument with name },
     .of "value" .required Constant.reader fun argument value ↦ { argument with value }]

end NamedArgument

namespace Attribute

/-- The attribute of a name, without arguments and place. -/
def named (name : String) : Attribute := ⟨name, [], [], .unknown⟩

/-- An attribute with one more argument. -/
def withArgument (attr : Attribute) (value : Constant) : Attribute :=
  { attr with arguments := attr.arguments ++ [value] }

/-- An attribute with one more named argument. -/
def withNamedArgument (attr : Attribute) (name : String) (value : Constant) : Attribute :=
  { attr with namedArguments := attr.namedArguments ++ [⟨name, value⟩] }

/-- An attribute at a place. -/
def withSpan (attr : Attribute) (span : Span) : Attribute :=
  { attr with span }

/-- The simple form of an attribute's name. -/
def simpleName (attr : Attribute) : String := simpleAttributeName attr.name

/-- True of an attribute that has the same simple name as another name. -/
def is (attr : Attribute) (name : String) : Bool :=
  attr.simpleName == simpleAttributeName name

/-- The JSON form of an attribute. -/
def toJson (attr : Attribute) : Json :=
  .object
    [("name", .string attr.name),
     ("positional_args", .array (Constant.toJsons attr.arguments)),
     ("named_args", .array (attr.namedArguments.map NamedArgument.toJson)),
     ("span", attr.span.toJson)]

/-- Read an attribute. -/
def read : Reader Attribute :=
  Json.readRecord "struct Annotation" (named "")
    [.of "name" .required Json.readString fun attr name ↦ { attr with name },
     .of "positional_args" .defaulted (Json.readList Constant.reader) fun attr arguments ↦
       { attr with arguments },
     .of "named_args" .defaulted (Json.readList NamedArgument.read)
       fun attr namedArguments ↦ { attr with namedArguments },
     .of "span" .defaulted Span.read fun attr span ↦ { attr with span }]

end Attribute

namespace AttributeType

/-- The attribute type of a name and an ancestor, without constructors, markers and place. -/
def of (name base : String) : AttributeType := ⟨name, some base, [], [], .unknown⟩

/-- An attribute type with one more constructor. -/
def withConstructor (type : AttributeType) (params : List String) : AttributeType :=
  { type with constructors := type.constructors ++ [params] }

/-- An attribute type with one more marker. -/
def withMarker (type : AttributeType) (marker : String) : AttributeType :=
  { type with markers := type.markers ++ [marker] }

/-- The simple form of an attribute type's name. -/
def simpleName (type : AttributeType) : String := simpleAttributeName type.name

/-- The JSON form of an attribute type. -/
def toJson (type : AttributeType) : Json :=
  .object
    [("name", .string type.name),
     ("base", .stringOrNull type.base),
     ("constructors", .array (type.constructors.map .strings)),
     ("markers", .strings type.markers),
     ("span", type.span.toJson)]

/-- Read an attribute type. -/
def read : Reader AttributeType :=
  Json.readRecord "struct AnnotationTypeDecl" ⟨"", none, [], [], .unknown⟩
    [.of "name" .required Json.readString fun type name ↦ { type with name },
     .of "base" .defaulted (Json.readOption Json.readString) fun type base ↦ { type with base },
     .of "constructors" .defaulted (Json.readList (Json.readList Json.readString))
       fun type constructors ↦ { type with constructors },
     .of "markers" .defaulted (Json.readList Json.readString) fun type markers ↦
       { type with markers },
     .of "span" .defaulted Span.read fun type span ↦ { type with span }]

end AttributeType

end FunctionBindings
