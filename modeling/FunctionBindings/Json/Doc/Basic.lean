import FunctionBindings.Json.Fault
import FunctionBindings.Json.Value

/-!
# JSON documents

A document is what a JSON text says as far as it could be followed. A text that stops being JSON
still has a document: the place where it stops is part of it, so a reader that goes through the
document in order meets the faults of the text and its own complaints in the order of the text. A
text means different things to a reader that wants a value and to one that skips it, hence a place
where a text stops may carry two faults.

Values are documents too (`Json.toDoc`), without any fault.
-/

namespace FunctionBindings.Json

/-- The key of a member. -/
inductive Key where
  | named (name : String)
  /-- A complete string that denotes no text, such as one with half of a surrogate pair. -/
  | flawed (fault : TextFault)
  deriving Inhabited

/-- How the items of an array or the members of an object come to an end. -/
inductive Ending where
  | closed
  /-- The text ends where a delimiter is due. -/
  | cut
  /-- A comma and then the closing delimiter. -/
  | commaClosed
  /-- A comma and then the end of the text. -/
  | commaCut
  /-- Something else where a delimiter is due. -/
  | stray
  /-- Something other than a string where a key is due: what it is, or why it is nothing. -/
  | keyless (found : Except TextFault Found)
  /-- A key whose string breaks off: the faults of reading and of skipping it. -/
  | brokenKey (wanted skipped : TextFault)
  /-- The last item or member breaks off, so that nothing follows it. -/
  | unreached
  deriving Inhabited

/-- A JSON text as far as it could be followed. -/
inductive Doc where
  | null
  | bool (value : Bool)
  | number (value : Number)
  /-- A complete numeral that is beyond the doubles. -/
  | beyond
  | string (text : String)
  /-- A complete string that denotes no text. -/
  | flawed (fault : TextFault)
  /-- The items of an array; `deep` marks one that is nested too far to be read. -/
  | array (deep : Bool) (items : List Doc) (ending : Ending)
  /-- The members of an object; `deep` marks one that is nested too far to be read. -/
  | object (deep : Bool) (members : List (Key × Doc)) (ending : Ending)
  /-- The text stops being JSON, in a string or before any value: the faults of reading and of
  skipping what stands here. -/
  | broken (wanted skipped : TextFault)
  /-- The text stops being JSON in a number or a word. -/
  | brokenScalar (wanted skipped : TextFault)
  deriving Inhabited

/-- The text is refused if it has a fault. -/
def refuse (fault : TextFault) : Except Fault Unit := .error (.text fault)

/-- What a reader meets at the end of an array's items. -/
def Ending.ofItems : Ending → Except Fault Unit
  | .closed => .ok ()
  | .cut => refuse .endInList
  | .commaClosed => refuse .trailingComma
  | .commaCut => refuse .endInValue
  | _ => refuse .expectedListDelimiter

/-- What a reader meets at the end of an object's members. -/
def Ending.ofMembers : Ending → Except Fault Unit
  | .closed => .ok ()
  | .cut => refuse .endInObject
  | .commaClosed => refuse .trailingComma
  | .commaCut => refuse .endInValue
  | .keyless _ => refuse .keyNotString
  | .brokenKey wanted _ => refuse wanted
  | _ => refuse .expectedObjectDelimiter

/-- What a reader that skips an array meets at the end of its items. -/
def Ending.ofSkippedItems : Ending → Except Fault Unit
  | .commaClosed => refuse .expectedValue
  | ending => ending.ofItems

/-- What a reader that skips an object meets at the end of its members. -/
def Ending.ofSkippedMembers : Ending → Except Fault Unit
  | .commaClosed => refuse .keyNotString
  | .commaCut => refuse .endInObject
  | .brokenKey _ skipped => refuse skipped
  | ending => ending.ofMembers

/-- What a reader that wants no more items meets after the last one it wanted. -/
def Ending.ofSpareItems : Ending → Except Fault Unit
  | .closed => .ok ()
  | .cut => refuse .endInList
  | .commaClosed => refuse .trailingComma
  | _ => refuse .trailingCharacters

/-- What a reader that wants one member meets after it. -/
def Ending.ofSpareMembers : Ending → Except Fault Unit
  | .closed => .ok ()
  | .cut => refuse .endInObject
  | _ => refuse .expectedValue

/-- The name of a key. -/
def Key.name : Key → Except Fault String
  | .named name => .ok name
  | .flawed fault => .error (.text fault)

mutual

/-- Skip a document: only where the text stops being JSON matters. -/
def Doc.skip : Doc → Except Fault Unit
  | .array _ items ending => do Doc.skipItems items; ending.ofSkippedItems
  | .object _ members ending => do Doc.skipMembers members; ending.ofSkippedMembers
  | .broken _ skipped => refuse skipped
  | .brokenScalar _ skipped => refuse skipped
  | _ => .ok ()
termination_by structural doc => doc

/-- Skip items in order. -/
def Doc.skipItems : List Doc → Except Fault Unit
  | [] => .ok ()
  | item :: items => do Doc.skip item; Doc.skipItems items
termination_by structural items => items

/-- Skip members in order. -/
def Doc.skipMembers : List (Key × Doc) → Except Fault Unit
  | [] => .ok ()
  | (_, value) :: members => do Doc.skip value; Doc.skipMembers members
termination_by structural members => members

end

/-- An array or object that is nested too far is refused before its contents. -/
def refuseDeep (deep : Bool) : Except Fault Unit :=
  if deep then refuse .tooDeep else .ok ()

mutual

/-- The value of a document. An object enters its members in order, so a repeated key has its last
value at its first place. -/
def Doc.value : Doc → Except Fault Json
  | .null => .ok .null
  | .bool b => .ok (.bool b)
  | .number n => .ok (.number n)
  | .beyond => .error (.text .numberOutOfRange)
  | .string text => .ok (.string text)
  | .flawed fault => .error (.text fault)
  | .array deep items ending => do
      refuseDeep deep
      let values ← Doc.values items
      ending.ofItems
      return .array values
  | .object deep members ending => do
      refuseDeep deep
      let values ← Doc.memberValues members
      ending.ofMembers
      return .object (Entries.ofList values)
  | .broken wanted _ => .error (.text wanted)
  | .brokenScalar wanted _ => .error (.text wanted)
termination_by structural doc => doc

/-- The values of items in order. -/
def Doc.values : List Doc → Except Fault (List Json)
  | [] => .ok []
  | item :: items => do
      let value ← Doc.value item
      let values ← Doc.values items
      return value :: values
termination_by structural items => items

/-- The values of members in order. -/
def Doc.memberValues : List (Key × Doc) → Except Fault (List (String × Json))
  | [] => .ok []
  | (key, member) :: members => do
      let name ← key.name
      let value ← Doc.value member
      let values ← Doc.memberValues members
      return (name, value) :: values
termination_by structural members => members

end

/-- Go through a whole document as a reader of its value does, and meet its first fault. -/
def Doc.check (doc : Doc) : Except Fault Unit := do
  let _ ← doc.value
  return ()

/-- What a document is, to a reader that wanted something else. Scalars are read first, arrays and
objects are not entered. -/
def Doc.found : Doc → Except Fault Found
  | .null => .ok .null
  | .bool b => .ok (.bool b)
  | .number (.int n) => .ok (.integer n)
  | .number (.float x) => .ok (.float x)
  | .beyond => .error (.text .numberOutOfRange)
  | .string text => .ok (.string text)
  | .flawed fault => .error (.text fault)
  | .array _ _ _ => .ok .sequence
  | .object _ _ _ => .ok .map
  | .broken wanted _ => .error (.text wanted)
  | .brokenScalar wanted _ => .error (.text wanted)

/-- The fault of a document that stands where something else is wanted. -/
def Doc.mismatch {α : Type} (doc : Doc) (expected : String) : Except Fault α := do
  let found ← doc.found
  .error (.data (.invalidType found expected))

mutual

/-- The document of a value. -/
def toDoc : Json → Doc
  | .null => .null
  | .bool b => .bool b
  | .number n => .number n
  | .string text => .string text
  | .array items => .array false (toDocs items) .closed
  | .object members => .object false (toMemberDocs members) .closed
termination_by structural value => value

/-- The documents of items. -/
def toDocs : List Json → List Doc
  | [] => []
  | item :: items => toDoc item :: toDocs items
termination_by structural items => items

/-- The documents of members. -/
def toMemberDocs : List (String × Json) → List (Key × Doc)
  | [] => []
  | (key, value) :: members => (.named key, toDoc value) :: toMemberDocs members
termination_by structural members => members

end

end FunctionBindings.Json
