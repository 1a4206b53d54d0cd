import FunctionBindings.Json.Reader
import FunctionBindings.Model.TypeRef

/-!
# JSON form of type references

A reference is an object whose member `kind` tells what it is; the other members may come before or
after it. It may also be an array with the kind in front. Since the kind decides what the other
parts mean, a reference is read as a whole before its parts are.
-/

namespace FunctionBindings.TypeRef

open Json (Doc Ending Fault Key Reader Source refuseData refuseDeep refuseSpare)

/-- What a reference refers to, as its member `kind` says. -/
inductive Kind where
  | void
  | named
  | array
  | unresolved
  deriving DecidableEq, Repr

/-- The written names of the kinds. -/
def Kind.names : List (String × Kind) :=
  [("void", .void), ("named", .named), ("array", .array), ("error", .unresolved)]

/-- The parts of a reference that have been read. -/
structure Parts where
  path : Option String
  generics : Option (List TypeRef)
  element : Option TypeRef
  text : Option String

/-- A reference of which nothing has been read. -/
def Parts.none : Parts := ⟨.none, .none, .none, .none⟩

/-- The reference that its parts make up. -/
def Parts.assemble (parts : Parts) : Kind → Except Fault TypeRef
  | .void => .ok .void
  | .named =>
      match parts.path with
      | some path => .ok (.named path (parts.generics.getD []))
      | .none => refuseData (.missingField "path")
  | .array =>
      match parts.element with
      | some element => .ok (.array element)
      | .none => refuseData (.missingField "element")
  | .unresolved => .ok (.unresolved (parts.text.getD ""))

/-- The kind that the members give. The other members are gone through on the way. -/
def kindOfMembers (source : Source) :
    List (Key × Doc) → Option Kind → Except Fault (Option Kind)
  | [], kind => .ok kind
  | (key, doc) :: members, kind => do
      let name ← key.name
      if name = "kind" then
        if kind.isSome then refuseData (.duplicateField "kind")
        else
          let kind ← Json.readTag Kind.names source doc
          kindOfMembers source members (some kind)
      else
        doc.check
        kindOfMembers source members kind

/-- Enter a part unless it is there already. -/
def enter {α : Type} (name : String) (old : Option α) (value : Except Fault α)
    (set : α → Parts) : Except Fault Parts :=
  if old.isSome then refuseData (.duplicateField name) else value.map set

mutual

/-- Read a reference. -/
def read (source : Source) : Doc → Except Fault TypeRef
  | .object deep members ending => do
      refuseDeep deep
      let kind? ← kindOfMembers source members .none
      ending.ofMembers
      match kind? with
      | .none => refuseData (.missingField "kind")
      | some kind =>
          let parts ← readMembers kind members .none
          parts.assemble kind
  | .array deep items ending => do
      refuseDeep deep
      match items with
      | [] =>
          ending.ofItems
          refuseData (.missingField "kind")
      | item :: rest =>
          let kind ← Json.readTag Kind.names source item
          let _ ← Doc.values rest
          ending.ofItems
          readElements kind rest
  | doc => doc.mismatch "internally tagged enum TypeRef"
termination_by structural doc => doc

/-- Read the type arguments of a reference. -/
def readGenerics : Doc → Except Fault (List TypeRef)
  | .array _ items _ => readAll items
  | doc => doc.mismatch "a sequence"
termination_by structural doc => doc

/-- Read references in order. -/
def readAll : List Doc → Except Fault (List TypeRef)
  | [] => .ok []
  | item :: items => do
      let type ← read .buffer item
      let types ← readAll items
      return type :: types
termination_by structural items => items

/-- Read the parts of a reference of known kind from its members. -/
def readMembers (kind : Kind) : List (Key × Doc) → Parts → Except Fault Parts
  | [], parts => .ok parts
  | (key, doc) :: members, parts => do
      let name ← key.name
      let parts ← match kind, name with
        | .named, "path" =>
            enter name parts.path (Json.readString .buffer doc) fun path ↦
              { parts with path := some path }
        | .named, "generics" =>
            enter name parts.generics (readGenerics doc) fun generics ↦
              { parts with generics := some generics }
        | .array, "element" =>
            enter name parts.element (read .buffer doc) fun element ↦
              { parts with element := some element }
        | .unresolved, "text" =>
            enter name parts.text (Json.readString .buffer doc) fun text ↦
              { parts with text := some text }
        | _, _ => .ok parts
      readMembers kind members parts
termination_by structural members => members

/-- Read a reference of known kind from the items behind its kind. -/
def readElements (kind : Kind) : List Doc → Except Fault TypeRef
  | [] =>
      match kind with
      | .void => .ok .void
      | .named => refuseData (.invalidLength 0 "struct variant TypeRef::Named with 2 elements")
      | .array => refuseData (.invalidLength 0 "struct variant TypeRef::Array with 1 element")
      | .unresolved => .ok (.unresolved "")
  | item :: rest =>
      match kind with
      | .void => do
          refuseSpare .buffer 0 (item :: rest) .closed
          return .void
      | .named => do
          let path ← Json.readString .buffer item
          readArguments path rest
      | .array => do
          let element ← read .buffer item
          refuseSpare .buffer 1 rest .closed
          return .array element
      | .unresolved => do
          let text ← Json.readString .buffer item
          refuseSpare .buffer 1 rest .closed
          return .unresolved text
termination_by structural items => items

/-- Read a named reference from the items behind its path. -/
def readArguments (path : String) : List Doc → Except Fault TypeRef
  | [] => .ok (.named path [])
  | item :: rest => do
      let generics ← readGenerics item
      refuseSpare .buffer 2 rest .closed
      return .named path generics
termination_by structural items => items

end

mutual

/-- The JSON form of a reference; an empty list of type arguments is left out. -/
def toJson : TypeRef → Json
  | .void => .object [("kind", .string "void")]
  | .named path [] => .object [("kind", .string "named"), ("path", .string path)]
  | .named path (generic :: generics) =>
      .object [("kind", .string "named"), ("path", .string path),
        ("generics", .array (toJson generic :: toJsons generics))]
  | .array element => .object [("kind", .string "array"), ("element", toJson element)]
  | .unresolved text => .object [("kind", .string "error"), ("text", .string text)]
termination_by structural type => type

/-- The JSON forms of references. -/
def toJsons : List TypeRef → List Json
  | [] => []
  | type :: types => toJson type :: toJsons types
termination_by structural types => types

end

/-- A reader of references. -/
def reader : Reader TypeRef := fun source doc ↦ read source doc

end FunctionBindings.TypeRef
