import FunctionBindings.Json.Printer
import FunctionBindings.Json.Reader

/-!
# Descriptors and records

A descriptor says what one binding of a function is; a record is all that the host needs to know
about one function, with its descriptors as JSON texts. The artifact is the JSON array of the
records.
-/

namespace FunctionBindings

open Json (Reader)

/-- The name of a binding that is attached to the return value. -/
def returnBindingName : String := "$return"

/-- The binding type of an HTTP response that nobody wrote down. -/
def httpBindingType : String := "http"

/-- Whether data flows into the function or out of it. -/
inductive Direction where
  | input
  | output
  deriving DecidableEq, Repr, Inhabited

/-- A hint how the host hands over the data. -/
inductive DataType where
  | string
  | binary
  deriving DecidableEq, Repr, Inhabited

/-- An argument of an attribute as a property of its descriptor. -/
inductive PropertyValue where
  /-- A text, quoted on output. -/
  | text (content : String)
  /-- A text that is a rendered literal already. -/
  | literal (content : String)
  /-- An array of texts. -/
  | list (items : List String)
  deriving DecidableEq, Repr, Inhabited

/-- The properties of a descriptor, in order. -/
abbrev Properties := Table String PropertyValue

/-- One binding of a function. -/
structure Descriptor where
  name : String
  bindingType : String
  direction : Direction
  dataType : Option DataType
  properties : Properties
  deriving DecidableEq

/-- What the host needs to know about one function. -/
structure FunctionRecord where
  functionId : String
  language : String
  name : String
  entryPoint : String
  /-- The JSON texts of the descriptors. -/
  rawBindings : List String
  scriptFile : String
  deriving DecidableEq, Repr, Inhabited

namespace Direction

/-- The written name of a direction. -/
def name : Direction → String
  | .input => "In"
  | .output => "Out"

/-- Read a direction. -/
def read : Reader Direction :=
  Json.readVariant [("In", .unit .input), ("Out", .unit .output)]

end Direction

namespace DataType

/-- The written name of a hint. -/
def name : DataType → String
  | .string => "String"
  | .binary => "Binary"

/-- Read a hint. -/
def read : Reader DataType :=
  Json.readVariant [("String", .unit .string), ("Binary", .unit .binary)]

end DataType

namespace PropertyValue

/-- The JSON form of a property value, which names its variant. -/
def toJson : PropertyValue → Json
  | .text content => .object [("Text", .string content)]
  | .literal content => .object [("Literal", .string content)]
  | .list items => .object [("List", .strings items)]

/-- Read a property value. -/
def read : Reader PropertyValue :=
  Json.readVariant
    [("Text", .newtype fun source doc ↦ (Json.readString source doc).map .text),
     ("Literal", .newtype fun source doc ↦ (Json.readString source doc).map .literal),
     ("List", .newtype fun source doc ↦
       (Json.readList Json.readString source doc).map .list)]

end PropertyValue

namespace Descriptor

/-- The descriptor of an HTTP response that nobody wrote down. -/
def httpResponse (name : String) : Descriptor :=
  ⟨name, httpBindingType, .output, none, ∅⟩

/-- The JSON form of a property: a literal is emitted as the JSON value that it reads as, and as a
string if it does not read. -/
def propertyJson : PropertyValue → Json
  | .text content => .string content
  | .literal content =>
      match Json.ofText content with
      | .ok value => value
      | .error _ => .string content
  | .list items => .strings items

/-- The members of a descriptor in the order in which they are entered. -/
def members (descriptor : Descriptor) : List (String × Json) :=
  [("name", .string descriptor.name),
   ("type", .string descriptor.bindingType),
   ("direction", .string descriptor.direction.name)] ++
  (descriptor.properties.entries.map fun property ↦ (property.1, propertyJson property.2)) ++
  (match descriptor.dataType with
   | some dataType => [("dataType", .string dataType.name)]
   | none => [])

/-- The JSON form of a descriptor: name, type and direction, the properties in order, and the data
type if there is one. A property with the key of an earlier member replaces its value. -/
def toJson (descriptor : Descriptor) : Json :=
  .object (Entries.ofList descriptor.members)

/-- The JSON text of a descriptor. -/
def text (descriptor : Descriptor) : String := descriptor.toJson.compactText

end Descriptor

namespace FunctionRecord

/-- The JSON form of a record. -/
def toJson (record : FunctionRecord) : Json :=
  .object
    [("functionId", .string record.functionId),
     ("language", .string record.language),
     ("name", .string record.name),
     ("entryPoint", .string record.entryPoint),
     ("rawBindings", .strings record.rawBindings),
     ("scriptFile", .string record.scriptFile)]

/-- Read a record. -/
def read : Reader FunctionRecord :=
  Json.readRecord "struct FunctionMetadata" ⟨"", "", "", "", [], ""⟩
    [.of "functionId" .required Json.readString fun record functionId ↦
       { record with functionId },
     .of "language" .required Json.readString fun record language ↦ { record with language },
     .of "name" .required Json.readString fun record name ↦ { record with name },
     .of "entryPoint" .required Json.readString fun record entryPoint ↦
       { record with entryPoint },
     .of "rawBindings" .required (Json.readList Json.readString) fun record rawBindings ↦
       { record with rawBindings },
     .of "scriptFile" .required Json.readString fun record scriptFile ↦
       { record with scriptFile }]

/-- Read the records of an artifact. -/
def readAll : Reader (List FunctionRecord) := Json.readList read

end FunctionRecord

/-- The text of the artifact that holds records, in compact or pretty form. -/
def artifactText (records : List FunctionRecord) (pretty : Bool) : String :=
  let value := Json.array (records.map FunctionRecord.toJson)
  if pretty then value.prettyText else value.compactText

end FunctionBindings
