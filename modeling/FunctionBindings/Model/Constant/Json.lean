import FunctionBindings.Json.Reader
import FunctionBindings.Model.Constant

/-!
# JSON form of constants

A constant is an object with a `kind` and a `value`, or an array of the two. A value that comes
before its kind is set aside and read when the kind is known. A scalar is any JSON value that is not
an array or object; a number that is no signed 64-bit integer is a double.
-/

namespace FunctionBindings

open Json (Doc Ending Fault Key Reader Source refuseData refuseDeep refuseSpare)

/-- The scalar of a JSON value. -/
def Scalar.ofJson? : Json → Option Scalar
  | .null => some .null
  | .bool b => some (.bool b)
  | .number (.int n) =>
      if Decimal.isSigned n then some (.int (Int64.ofInt n))
      else some (.float (UInt64.ofNat n.toNat).toFloat)
  | .number (.float x) => some (.float x)
  | .string text => some (.string text)
  | .array _ => none
  | .object _ => none

/-- The JSON form of a scalar. -/
def Scalar.toJson : Scalar → Json
  | .bool b => .bool b
  | .int n => .int n.toInt
  | .float x => .number (.float x)
  | .string text => .string text
  | .null => .null

/-- Read a scalar; the document is gone through as a whole first. -/
def Scalar.read (doc : Doc) : Except Fault Scalar := do
  let value ← doc.value
  match Scalar.ofJson? value with
  | some scalar => return scalar
  | none => refuseData (.noAlternative "Primitive")

namespace Constant

/-- What a constant is, as its member `kind` says. -/
inductive Kind where
  | scalar
  | member
  | typeOf
  | array
  deriving DecidableEq, Repr

/-- The kinds as variants without anything beside their names. -/
def Kind.variants : List (Json.Variant Kind) :=
  [("primitive", .unit .scalar), ("enum", .unit .member), ("type", .unit .typeOf),
   ("array", .unit .array)]

/-- How a constant is named where another value stands. -/
def title : String := "adjacently tagged enum TypedValue"

/-- What has been read of the members of a constant. -/
inductive Progress where
  | start
  /-- The kind, but not yet the value. -/
  | kind (kind : Kind)
  /-- The value, which is read as soon as the kind is known. -/
  | value (read : Kind → Except Fault Constant)
  | finished (constant : Constant)

/-- The constant after all members. -/
def Progress.finish : Progress → Except Fault Constant
  | .start => refuseData (.missingField "kind")
  | .kind _ => refuseData (.missingField "value")
  | .value _ => refuseData (.missingField "kind")
  | .finished constant => .ok constant

mutual

/-- Read a constant. -/
def read (source : Source) : Doc → Except Fault Constant
  | .object deep members ending => do
      refuseDeep deep
      let progress ← readMembers source members .start
      ending.ofMembers
      progress.finish
  | .array deep items ending => do
      refuseDeep deep
      match items with
      | [] =>
          ending.ofItems
          refuseData (.invalidLength 0 title)
      | item :: rest =>
          let kind ← Json.readVariant Kind.variants source item
          readElements source kind rest ending
  | doc => doc.mismatch title
termination_by structural doc => doc

/-- Read the value of a constant of known kind. -/
def readValue (source : Source) (kind : Kind) : Doc → Except Fault Constant
  | .array deep items ending =>
      match kind with
      | .scalar => (Scalar.read (.array deep items ending)).map .scalar
      | .member => Doc.mismatch (.array deep items ending) "a string"
      | .typeOf => Doc.mismatch (.array deep items ending) "a string"
      | .array => do
          refuseDeep deep
          let constants ← readAll source items
          ending.ofItems
          return .array constants
  | doc =>
      match kind with
      | .scalar => (Scalar.read doc).map .scalar
      | .member => (Json.readString source doc).map .member
      | .typeOf => (Json.readString source doc).map .typeOf
      | .array => doc.mismatch "a sequence"
termination_by structural doc => doc

/-- Read constants in order. -/
def readAll (source : Source) : List Doc → Except Fault (List Constant)
  | [] => .ok []
  | item :: items => do
      let constant ← read source item
      let constants ← readAll source items
      return constant :: constants
termination_by structural items => items

/-- Read the value of a constant of known kind from the items behind the kind. -/
def readElements (source : Source) (kind : Kind) :
    List Doc → Ending → Except Fault Constant
  | [], ending => do
      ending.ofItems
      refuseData (.invalidLength 1 title)
  | item :: rest, ending => do
      let constant ← readValue source kind item
      refuseSpare source 2 rest ending
      return constant
termination_by structural items => items

/-- Read the members of a constant in order. -/
def readMembers (source : Source) : List (Key × Doc) → Progress → Except Fault Progress
  | [], progress => .ok progress
  | (key, doc) :: members, progress => do
      let name ← key.name
      let progress ←
        if name = "kind" then
          match progress with
          | .start => (Json.readVariant Kind.variants source doc).map .kind
          | .value readAs => do
              let kind ← Json.readVariant Kind.variants source doc
              (readAs kind).map .finished
          | _ => refuseData (.duplicateField "kind")
        else if name = "value" then
          match progress with
          | .start => do
              doc.check
              pure (.value fun kind ↦ readValue .buffer kind doc)
          | .kind kind => (readValue source kind doc).map .finished
          | _ => refuseData (.duplicateField "value")
        else do
          doc.skip
          pure progress
      readMembers source members progress
termination_by structural members => members

end

/-- A reader of constants. -/
def reader : Reader Constant := fun source doc ↦ read source doc

mutual

/-- The JSON form of a constant. -/
def toJson : Constant → Json
  | .scalar value => .object [("kind", .string "primitive"), ("value", value.toJson)]
  | .member name => .object [("kind", .string "enum"), ("value", .string name)]
  | .typeOf name => .object [("kind", .string "type"), ("value", .string name)]
  | .array items => .object [("kind", .string "array"), ("value", .array (toJsons items))]
termination_by structural constant => constant

/-- The JSON forms of constants. -/
def toJsons : List Constant → List Json
  | [] => []
  | item :: items => toJson item :: toJsons items
termination_by structural items => items

end

end Constant

end FunctionBindings
