import FunctionBindings.Decimal.Layout
import FunctionBindings.Text.Literal

/-!
# What can be wrong with JSON input

A text can stop being JSON (`TextFault`), and a value can be other than the one wanted
(`DataFault`). Each cause is a constructor; the wording is in `TextFault.message` and
`DataFault.message`.
-/

namespace FunctionBindings.Json

/-- Why a text is not JSON. -/
inductive TextFault where
  | endInList
  | endInObject
  | endInString
  | endInValue
  | expectedColon
  | expectedListDelimiter
  | expectedObjectDelimiter
  | expectedIdent
  | expectedValue
  | invalidEscape
  | invalidNumber
  | numberOutOfRange
  | loneSurrogate
  | brokenSurrogatePair
  | controlCharacter
  | keyNotString
  | trailingComma
  | trailingCharacters
  | tooDeep
  deriving DecidableEq, Repr, Inhabited

/-- What stands where something else was wanted. -/
inductive Found where
  | null
  | bool (value : Bool)
  | integer (value : Int)
  | float (value : Float)
  | string (text : String)
  | sequence
  | map
  | unitVariant
  deriving Inhabited

/-- Why a value is not the one wanted. -/
inductive DataFault where
  /-- A value of another kind. -/
  | invalidType (found : Found) (expected : String)
  /-- A value of the right kind that is not allowed. -/
  | invalidValue (found : Found) (expected : String)
  /-- An array of the wrong length. -/
  | invalidLength (length : Nat) (expected : String)
  /-- A name that is none of the known variants. -/
  | unknownVariant (name : String) (known : List String)
  /-- A required field that is absent. -/
  | missingField (name : String)
  /-- A field that is given twice. -/
  | duplicateField (name : String)
  /-- A value that none of the alternatives of a type accepts. -/
  | noAlternative (type : String)
  deriving Inhabited

/-- Why input was refused. -/
inductive Fault where
  | text (fault : TextFault)
  | data (fault : DataFault)
  deriving Inhabited

/-- The kinds of faults: a malformed text, a text that ends early, or a value that is not wanted. -/
inductive Category where
  | syntaxError
  | endOfText
  | data
  deriving DecidableEq, Repr

/-- A text that ends early is told apart from other malformed texts. -/
def TextFault.category : TextFault → Category
  | .endInList | .endInObject | .endInString | .endInValue => .endOfText
  | _ => .syntaxError

/-- The kind of a fault. -/
def Fault.category : Fault → Category
  | .text fault => fault.category
  | .data _ => .data

/-- The wording of a malformed text's fault. -/
def TextFault.message : TextFault → String
  | .endInList => "EOF while parsing a list"
  | .endInObject => "EOF while parsing an object"
  | .endInString => "EOF while parsing a string"
  | .endInValue => "EOF while parsing a value"
  | .expectedColon => "expected `:`"
  | .expectedListDelimiter => "expected `,` or `]`"
  | .expectedObjectDelimiter => "expected `,` or `\x7d`"
  | .expectedIdent => "expected ident"
  | .expectedValue => "expected value"
  | .invalidEscape => "invalid escape"
  | .invalidNumber => "invalid number"
  | .numberOutOfRange => "number out of range"
  | .loneSurrogate => "lone leading surrogate in hex escape"
  | .brokenSurrogatePair => "unexpected end of hex escape"
  | .controlCharacter => "control character (\\u0000-\\u001F) found while parsing a string"
  | .keyNotString => "key must be a string"
  | .trailingComma => "trailing comma"
  | .trailingCharacters => "trailing characters"
  | .tooDeep => "recursion limit exceeded"

/-- How a message names what was found. -/
def Found.message : Found → String
  | .null => "null"
  | .bool true => "boolean `true`"
  | .bool false => "boolean `false`"
  | .integer n => "integer " ++ Text.ticked (String.ofList (Decimal.intText n))
  | .float x => "floating point " ++ Text.ticked (String.ofList (Decimal.Layout.json.text x))
  | .string text => "string " ++ Text.literal text
  | .sequence => "sequence"
  | .map => "map"
  | .unitVariant => "unit variant"

/-- How a message names the variants of a type: one, two, or a list of them. -/
def knownVariants : List String → String
  | [] => "there are no variants"
  | [a] => "expected " ++ Text.ticked a
  | [a, b] => "expected " ++ Text.ticked a ++ " or " ++ Text.ticked b
  | names => "expected one of " ++ ", ".intercalate (names.map Text.ticked)

/-- The wording of an unwanted value's fault. -/
def DataFault.message : DataFault → String
  | .invalidType found expected => "invalid type: " ++ found.message ++ ", expected " ++ expected
  | .invalidValue found expected => "invalid value: " ++ found.message ++ ", expected " ++ expected
  | .invalidLength length expected =>
      "invalid length " ++ Decimal.natString length ++ ", expected " ++ expected
  | .unknownVariant name known =>
      "unknown variant " ++ Text.ticked name ++ ", " ++ knownVariants known
  | .missingField name => "missing field " ++ Text.ticked name
  | .duplicateField name => "duplicate field " ++ Text.ticked name
  | .noAlternative type => "data did not match any variant of untagged enum " ++ type

/-- The wording of a fault. -/
def Fault.message : Fault → String
  | .text fault => fault.message
  | .data fault => fault.message

end FunctionBindings.Json
