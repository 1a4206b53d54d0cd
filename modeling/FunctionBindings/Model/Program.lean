import FunctionBindings.Model.Attribute
import FunctionBindings.Model.TypeRef.Json

/-!
# Programs

A program is what a front-end found in one build unit: its declared types with their members and
methods, and its attribute types. All lists are in the order of the declarations.
-/

namespace FunctionBindings

open Json (Reader)

/-- A parameter of a method. -/
structure Parameter where
  name : String
  type : TypeRef
  attributes : List Attribute
  span : Span
  deriving Inhabited

/-- A property of a declared type. -/
structure Member where
  name : String
  type : TypeRef
  attributes : List Attribute
  span : Span
  deriving Inhabited

/-- A method of a declared type. -/
structure Method where
  name : String
  attributes : List Attribute
  params : List Parameter
  returnType : TypeRef
  span : Span
  deriving Inhabited

/-- A class, structure or record that a program declares. -/
structure DeclaredType where
  name : String
  namespaceName : Option String
  /-- The source file that holds the declaration. -/
  file : Option String
  members : List Member
  methods : List Method
  span : Span
  deriving Inhabited

/-- One build unit. -/
structure Program where
  /-- The name of the compiled unit. -/
  assembly : String
  attributeTypes : List AttributeType
  types : List DeclaredType
  deriving Inhabited

namespace Parameter

/-- The parameter of a name and a type, without attributes and place. -/
def of (name : String) (type : TypeRef) : Parameter := ⟨name, type, [], .unknown⟩

/-- A parameter with one more attribute. -/
def annotated (param : Parameter) (attr : Attribute) : Parameter :=
  { param with attributes := param.attributes ++ [attr] }

/-- The JSON form of a parameter. -/
def toJson (param : Parameter) : Json :=
  .object
    [("name", .string param.name),
     ("ty", param.type.toJson),
     ("annotations", .array (param.attributes.map Attribute.toJson)),
     ("span", param.span.toJson)]

/-- Read a parameter. -/
def read : Reader Parameter :=
  Json.readRecord "struct Parameter" ⟨"", .void, [], .unknown⟩
    [.of "name" .required Json.readString fun param name ↦ { param with name },
     .of "ty" .required TypeRef.reader fun param type ↦ { param with type },
     .of "annotations" .defaulted (Json.readList Attribute.read) fun param attributes ↦
       { param with attributes },
     .of "span" .defaulted Span.read fun param span ↦ { param with span }]

end Parameter

namespace Member

/-- The member of a name and a type, without attributes and place. -/
def of (name : String) (type : TypeRef) : Member := ⟨name, type, [], .unknown⟩

/-- A member with one more attribute. -/
def annotated (member : Member) (attr : Attribute) : Member :=
  { member with attributes := member.attributes ++ [attr] }

/-- The JSON form of a member. -/
def toJson (member : Member) : Json :=
  .object
    [("name", .string member.name),
     ("ty", member.type.toJson),
     ("annotations", .array (member.attributes.map Attribute.toJson)),
     ("span", member.span.toJson)]

/-- Read a member. -/
def read : Reader Member :=
  Json.readRecord "struct MemberDecl" ⟨"", .void, [], .unknown⟩
    [.of "name" .required Json.readString fun member name ↦ { member with name },
     .of "ty" .required TypeRef.reader fun member type ↦ { member with type },
     .of "annotations" .defaulted (Json.readList Attribute.read) fun member attributes ↦
       { member with attributes },
     .of "span" .defaulted Span.read fun member span ↦ { member with span }]

end Member

namespace Method

/-- The method of a name and a return type, without attributes, parameters and place. -/
def of (name : String) (returnType : TypeRef) : Method := ⟨name, [], [], returnType, .unknown⟩

/-- A method with one more attribute. -/
def annotated (method : Method) (attr : Attribute) : Method :=
  { method with attributes := method.attributes ++ [attr] }

/-- A method with one more parameter. -/
def withParam (method : Method) (param : Parameter) : Method :=
  { method with params := method.params ++ [param] }

/-- A method at a place. -/
def withSpan (method : Method) (span : Span) : Method :=
  { method with span }

/-- The JSON form of a method. -/
def toJson (method : Method) : Json :=
  .object
    [("name", .string method.name),
     ("annotations", .array (method.attributes.map Attribute.toJson)),
     ("params", .array (method.params.map Parameter.toJson)),
     ("return_type", method.returnType.toJson),
     ("span", method.span.toJson)]

/-- Read a method. -/
def read : Reader Method :=
  Json.readRecord "struct MethodDecl" ⟨"", [], [], .void, .unknown⟩
    [.of "name" .required Json.readString fun method name ↦ { method with name },
     .of "annotations" .defaulted (Json.readList Attribute.read) fun method attributes ↦
       { method with attributes },
     .of "params" .defaulted (Json.readList Parameter.read) fun method params ↦
       { method with params },
     .of "return_type" .required TypeRef.reader fun method returnType ↦
       { method with returnType },
     .of "span" .defaulted Span.read fun method span ↦ { method with span }]

end Method

namespace DeclaredType

/-- The type of a name, without anything else. -/
def of (name : String) : DeclaredType := ⟨name, none, none, [], [], .unknown⟩

/-- A type in a namespace. -/
def inNamespace (type : DeclaredType) (namespaceName : String) : DeclaredType :=
  { type with namespaceName := some namespaceName }

/-- A type in a file. -/
def inFile (type : DeclaredType) (file : String) : DeclaredType :=
  { type with file := some file }

/-- A type with one more member. -/
def withMember (type : DeclaredType) (member : Member) : DeclaredType :=
  { type with members := type.members ++ [member] }

/-- A type with one more method. -/
def withMethod (type : DeclaredType) (method : Method) : DeclaredType :=
  { type with methods := type.methods ++ [method] }

/-- The name of a type behind its namespace; an empty namespace counts as none. -/
def fullName (type : DeclaredType) : String :=
  match type.namespaceName with
  | none => type.name
  | some ns => if ns = "" then type.name else ns ++ "." ++ type.name

/-- The JSON form of a declared type. -/
def toJson (type : DeclaredType) : Json :=
  .object
    [("name", .string type.name),
     ("namespace", .stringOrNull type.namespaceName),
     ("file", .stringOrNull type.file),
     ("members", .array (type.members.map Member.toJson)),
     ("methods", .array (type.methods.map Method.toJson)),
     ("span", type.span.toJson)]

/-- Read a declared type. -/
def read : Reader DeclaredType :=
  Json.readRecord "struct TypeDecl" ⟨"", none, none, [], [], .unknown⟩
    [.of "name" .required Json.readString fun type name ↦ { type with name },
     .of "namespace" .defaulted (Json.readOption Json.readString) fun type namespaceName ↦
       { type with namespaceName },
     .of "file" .defaulted (Json.readOption Json.readString) fun type file ↦ { type with file },
     .of "members" .defaulted (Json.readList Member.read) fun type members ↦
       { type with members },
     .of "methods" .defaulted (Json.readList Method.read) fun type methods ↦
       { type with methods },
     .of "span" .defaulted Span.read fun type span ↦ { type with span }]

end DeclaredType

namespace Program

/-- The program of an assembly, without declarations. -/
def of (assembly : String) : Program := ⟨assembly, [], []⟩

/-- A program with one more type. -/
def withType (program : Program) (type : DeclaredType) : Program :=
  { program with types := program.types ++ [type] }

/-- A program with one more attribute type. -/
def withAttributeType (program : Program) (type : AttributeType) : Program :=
  { program with attributeTypes := program.attributeTypes ++ [type] }

/-- The methods of a program in traversal order, each with the type that owns it. -/
def methods (program : Program) : List (DeclaredType × Method) :=
  program.types.flatMap fun type ↦ type.methods.map fun method ↦ (type, method)

/-- The JSON form of a program. -/
def toJson (program : Program) : Json :=
  .object
    [("assembly_name", .string program.assembly),
     ("annotation_types", .array (program.attributeTypes.map AttributeType.toJson)),
     ("types", .array (program.types.map DeclaredType.toJson))]

/-- The JSON text of a program. -/
def text (program : Program) : String := program.toJson.compactText

/-- Read a program. -/
def read : Reader Program :=
  Json.readRecord "struct Program" ⟨"", [], []⟩
    [.of "assembly_name" .required Json.readString fun program assembly ↦
       { program with assembly },
     .of "annotation_types" .defaulted (Json.readList AttributeType.read)
       fun program attributeTypes ↦ { program with attributeTypes },
     .of "types" .defaulted (Json.readList DeclaredType.read) fun program types ↦
       { program with types }]

end Program

end FunctionBindings
