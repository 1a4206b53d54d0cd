import FunctionBindings.Json.Doc.Parse

/-!
# Reading typed values

A reader turns a document into a value of some type or refuses it. Documents of texts, of values
that are already in memory, and of parts of either that were set aside and are read later are
refused in slightly different words, so a reader knows the source of its document.

Records are read from objects, whose members may come in any order and may include unknown ones, or
from arrays of their fields in order (`readRecord`). Variants are read from their name, or from an
object whose only key is the name (`readVariant`).
-/

namespace FunctionBindings.Json

/-- Where a document comes from. -/
inductive Source where
  | text
  | value
  /-- A part that was read as a whole before its type was known. -/
  | buffer
  deriving DecidableEq, Repr

/-- A reader of values of a type. -/
abbrev Reader (α : Type) := Source → Doc → Except Fault α

/-- Refuse with a fault of the data. -/
def refuseData {α : Type} (fault : DataFault) : Except Fault α := .error (.data fault)

/-- Read a string. -/
def readString : Reader String
  | _, .string text => .ok text
  | _, doc => doc.mismatch "a string"

/-- Read a boolean. -/
def readBool : Reader Bool
  | _, .bool b => .ok b
  | _, doc => doc.mismatch "a boolean"

/-- Read an unsigned 64-bit integer. -/
def readOffset : Reader UInt64
  | _, .number (.int n) =>
      if n < 0 then refuseData (.invalidValue (.integer n) "usize")
      else if n < Decimal.unsignedLimit then .ok (UInt64.ofNat n.toNat)
      else refuseData (.invalidValue (.integer n) "usize")
  | _, doc => doc.mismatch "usize"

/-- Read null as nothing and any other value with a reader. -/
def readOption {α : Type} (read : Reader α) : Reader (Option α)
  | _, .null => .ok none
  | source, doc => (read source doc).map some

/-- Read items in order. -/
def readItems {α : Type} (read : Reader α) (source : Source) : List Doc → Except Fault (List α)
  | [] => .ok []
  | item :: items => do
      let value ← read source item
      let values ← readItems read source items
      return value :: values

/-- Read an array of any length. -/
def readList {α : Type} (read : Reader α) : Reader (List α)
  | source, .array deep items ending => do
      refuseDeep deep
      let values ← readItems read source items
      ending.ofItems
      return values
  | _, doc => doc.mismatch "a sequence"

/-- A number of elements in words. -/
def elementCount (n : Nat) : String :=
  Decimal.natString n ++ (if n = 1 then " element" else " elements")

/-- Refuse what is left of an array of which the first `count` items were wanted. -/
def refuseSpare (source : Source) (count : Nat) (spare : List Doc) (ending : Ending) :
    Except Fault Unit :=
  match source, spare with
  | .text, [] => ending.ofSpareItems
  | .text, _ :: _ => refuse .trailingCharacters
  | _, [] => .ok ()
  | .value, _ :: _ =>
      refuseData (.invalidLength (count + spare.length) "fewer elements in array")
  | .buffer, _ :: _ =>
      refuseData (.invalidLength (count + spare.length) (elementCount count ++ " in sequence"))

/-- What an absent field means. -/
inductive Presence where
  /-- It is a fault. -/
  | required
  /-- It is nothing in an object, and a fault in an array. -/
  | optional
  /-- The field has its default. -/
  | defaulted
  deriving DecidableEq

/-- A field of a record: its name, what its absence means, and how its value enters the record. -/
structure Field (α : Type) where
  name : String
  presence : Presence
  read : Source → Doc → α → Except Fault α

/-- A field whose value a reader reads and a setter enters. -/
def Field.of {α β : Type} (name : String) (presence : Presence) (read : Reader β)
    (set : α → β → α) : Field α :=
  ⟨name, presence, fun source doc record ↦ (read source doc).map (set record)⟩

/-- Read the members of a record in order. Besides the record this gives the names that were seen;
one may not come again. -/
def readMembers {α : Type} (fields : List (Field α)) (source : Source) :
    List (Key × Doc) → α × List String → Except Fault (α × List String)
  | [], state => .ok state
  | (key, doc) :: members, (record, seen) => do
      let name ← key.name
      match fields.find? (·.name = name) with
      | none =>
          doc.skip
          readMembers fields source members (record, seen)
      | some field =>
          if name ∈ seen then refuseData (.duplicateField name)
          else
            let record ← field.read source doc record
            readMembers fields source members (record, name :: seen)

/-- Read the fields of a record from items in order. -/
def readElements {α : Type} (expected : String) (source : Source) (ending : Ending) (count : Nat) :
    List (Field α) → List Doc → α → Except Fault α
  | [], spare, record => do
      refuseSpare source count spare ending
      return record
  | field :: fields, [], record => do
      ending.ofItems
      if field.presence = .defaulted then
        readElements expected source ending (count + 1) fields [] record
      else refuseData (.invalidLength count expected)
  | field :: fields, item :: items, record => do
      let record ← field.read source item record
      readElements expected source ending (count + 1) fields items record

/-- Read a record from an object or an array, starting from a record in which the fields that are
not required have their defaults. -/
def readRecord {α : Type} (title : String) (start : α) (fields : List (Field α)) : Reader α
  | source, .object deep members ending => do
      refuseDeep deep
      let (record, seen) ← readMembers fields source members (start, [])
      ending.ofMembers
      match fields.find? fun f ↦ f.presence = .required ∧ f.name ∉ seen with
      | some field => refuseData (.missingField field.name)
      | none => return record
  | source, .array deep items ending => do
      refuseDeep deep
      readElements (title ++ " with " ++ elementCount fields.length) source ending 0 fields items
        start
  | _, doc => doc.mismatch title

/-- What a variant carries. -/
inductive Payload (α : Type) where
  | unit (value : α)
  | newtype (read : Reader α)

/-- A variant of a type: its name and what it carries. -/
abbrev Variant (α : Type) := String × Payload α

/-- The variant with a name. -/
def findVariant {α : Type} (variants : List (Variant α)) (name : String) :
    Except Fault (Payload α) :=
  match variants.find? (·.1 = name) with
  | some variant => .ok variant.2
  | none => refuseData (.unknownVariant name (variants.map Prod.fst))

/-- Read a variant that is given by its name alone. -/
def Payload.ofName {α : Type} : Payload α → Except Fault α
  | .unit value => .ok value
  | .newtype _ => refuseData (.invalidType .unitVariant "newtype variant")

/-- Read what stands beside a variant's name. -/
def Payload.ofDoc {α : Type} (source : Source) (doc : Doc) : Payload α → Except Fault α
  | .newtype read => read source doc
  | .unit value =>
      match source, doc with
      | _, .null => .ok value
      | .buffer, .object _ [] _ => .ok value
      | _, doc => doc.mismatch "unit"

/-- What a reader meets where the name of a variant is due in an object without members. -/
def Ending.ofVariantName {α : Type} : Ending → Except Fault α
  | .cut => .error (.text .endInValue)
  | .keyless (.ok found) => refuseData (.invalidType found "variant identifier")
  | .keyless (.error fault) => .error (.text fault)
  | .brokenKey wanted _ => .error (.text wanted)
  | _ => .error (.text .expectedValue)

/-- Read a variant from its name or from an object with one member. -/
def readVariant {α : Type} (variants : List (Variant α)) : Reader α
  | _, .string name => do
      let payload ← findVariant variants name
      payload.ofName
  | .text, .object deep members ending => do
      refuseDeep deep
      match members with
      | [] => ending.ofVariantName
      | (key, doc) :: rest =>
          let name ← key.name
          let payload ← findVariant variants name
          let value ← payload.ofDoc .text doc
          if rest.isEmpty then ending.ofSpareMembers else refuse .expectedValue
          return value
  | .text, .flawed fault => .error (.text fault)
  | .text, .broken wanted _ => .error (.text wanted)
  | .text, _ => .error (.text .expectedValue)
  | source, .object _ [(key, doc)] _ => do
      let name ← key.name
      let payload ← findVariant variants name
      payload.ofDoc source doc
  | _, .object _ _ _ => refuseData (.invalidValue .map "map with a single key")
  | _, doc => doc.mismatch "string or map"

/-- Read the name of a variant where only a name is wanted; a part that was set aside may also give
its position. -/
def readTag {α : Type} (variants : List (String × α)) : Reader α
  | _, .string name =>
      match variants.find? (·.1 = name) with
      | some variant => .ok variant.2
      | none => refuseData (.unknownVariant name (variants.map Prod.fst))
  | .buffer, .number (.int (.ofNat n)) =>
      match variants[n]? with
      | some variant => .ok variant.2
      | none =>
          refuseData (.invalidValue (.integer n)
            ("variant index 0 <= i < " ++ Decimal.natString variants.length))
  | _, doc => doc.mismatch "variant identifier"

/-- Read a typed value from a JSON text. -/
def Reader.ofText {α : Type} (read : Reader α) (text : String) : Except Fault α :=
  (Document.ofText text).readWith (read .text)

/-- Read a typed value from a JSON value. -/
def Reader.ofValue {α : Type} (read : Reader α) (value : Json) : Except Fault α :=
  read .value (toDoc value)

end FunctionBindings.Json
