import FunctionBindings.Model.Attribute
import FunctionBindings.Model.TypeRef

/-!
# Conventions

Which attribute marks an entry point, which type is an HTTP response, and which types are handed
over as strings or as bytes. The defaults are those of the isolated worker model.
-/

namespace FunctionBindings

open Json (Reader)

/-- The framework conventions that a program is read by. -/
structure Conventions where
  /-- The language that every record names. -/
  language : String
  /-- The script file that every record names; by default it is named after the assembly. -/
  scriptFile : Option String
  /-- The attribute that marks an entry point. -/
  entryPointAttribute : String
  /-- The full name of the HTTP response type. -/
  httpResponseType : String
  /-- The full names of the types that are handed over as strings. -/
  stringTypes : List String
  /-- The full names of the types that are handed over as bytes. -/
  binaryTypes : List String
  deriving DecidableEq, Repr

namespace Conventions

/-- The conventions of the isolated worker model. -/
def standard : Conventions where
  language := "dotnet-isolated"
  scriptFile := none
  entryPointAttribute := "Function"
  httpResponseType := "Microsoft.Azure.Functions.Worker.Http.HttpResponseData"
  stringTypes := ["System.String"]
  binaryTypes := ["System.Byte[]", "System.ReadOnlyMemory<System.Byte>"]

instance : Inhabited Conventions := ⟨standard⟩

/-- The script file of an assembly. -/
def scriptFileFor (conventions : Conventions) (assembly : String) : String :=
  conventions.scriptFile.getD (assembly ++ ".dll")

/-- True of the name of the attribute that marks entry points. -/
def isEntryPoint (conventions : Conventions) (attributeName : String) : Bool :=
  simpleAttributeName attributeName == simpleAttributeName conventions.entryPointAttribute

/-- True of the HTTP response type: by its full name, or by its last segment where the whole
reference has no dot. -/
def isHttpResponse (conventions : Conventions) (type : TypeRef) : Bool :=
  let full := type.fullName
  full == conventions.httpResponseType ||
    (!Text.isDotted full &&
      type.simpleName? == some (Text.lastSegment conventions.httpResponseType))

/-- True of a type that is handed over as a string. -/
def isString (conventions : Conventions) (type : TypeRef) : Bool :=
  conventions.stringTypes.contains type.fullName

/-- True of a type that is handed over as bytes. -/
def isBinary (conventions : Conventions) (type : TypeRef) : Bool :=
  conventions.binaryTypes.contains type.fullName

/-- The JSON form of conventions. -/
def toJson (conventions : Conventions) : Json :=
  .object
    [("language", .string conventions.language),
     ("script_file", .stringOrNull conventions.scriptFile),
     ("entry_point_annotation", .string conventions.entryPointAttribute),
     ("http_response_type", .string conventions.httpResponseType),
     ("string_types", .strings conventions.stringTypes),
     ("binary_types", .strings conventions.binaryTypes)]

/-- Read conventions; what is absent is as in the isolated worker model. -/
def read : Reader Conventions :=
  Json.readRecord "struct Conventions" standard
    [.of "language" .defaulted Json.readString fun conventions language ↦
       { conventions with language },
     .of "script_file" .defaulted (Json.readOption Json.readString) fun conventions scriptFile ↦
       { conventions with scriptFile },
     .of "entry_point_annotation" .defaulted Json.readString
       fun conventions entryPointAttribute ↦ { conventions with entryPointAttribute },
     .of "http_response_type" .defaulted Json.readString fun conventions httpResponseType ↦
       { conventions with httpResponseType },
     .of "string_types" .defaulted (Json.readList Json.readString) fun conventions stringTypes ↦
       { conventions with stringTypes },
     .of "binary_types" .defaulted (Json.readList Json.readString) fun conventions binaryTypes ↦
       { conventions with binaryTypes }]

end Conventions

/-- The settings of a generation. -/
structure GeneratorOptions where
  conventions : Conventions
  /-- Whether entry points are worked on at the same time. -/
  parallel : Bool
  deriving DecidableEq, Repr

namespace GeneratorOptions

/-- The default settings. -/
def standard : GeneratorOptions := ⟨.standard, true⟩

instance : Inhabited GeneratorOptions := ⟨standard⟩

/-- The JSON form of the settings of a generation. -/
def toJson (options : GeneratorOptions) : Json :=
  .object [("conventions", options.conventions.toJson), ("parallel", .bool options.parallel)]

/-- Read the settings of a generation; what is absent has its default. -/
def read : Reader GeneratorOptions :=
  Json.readRecord "struct GeneratorOptions" standard
    [.of "conventions" .defaulted Conventions.read fun options conventions ↦
       { options with conventions },
     .of "parallel" .defaulted Json.readBool fun options parallel ↦ { options with parallel }]

end GeneratorOptions

end FunctionBindings
