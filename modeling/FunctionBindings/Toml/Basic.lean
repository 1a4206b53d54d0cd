import FunctionBindings.Decimal.Integer
import FunctionBindings.Table
import FunctionBindings.Text.Literal

/-!
# TOML values

A TOML document is a table. Integers have 64 bits, floats are doubles, and a date or time is kept as
its normal text. What can be wrong with a document is a `Toml.Fault`.
-/

namespace FunctionBindings

/-- A TOML value. -/
inductive Toml where
  | string (text : String)
  | integer (value : Int)
  | float (value : Float)
  | boolean (value : Bool)
  /-- A date, a time, or both, in normal form. -/
  | moment (text : String)
  | array (items : List Toml)
  | table (members : List (String × Toml))
  deriving Inhabited

namespace Toml

/-- What can be wrong with a TOML document. -/
inductive Fault where
  | unexpectedEnd
  | unexpectedChar (c : Char)
  | invalidEscape (c : Char)
  /-- A number that is no character's code. -/
  | invalidCode (code : Nat)
  /-- Characters that are no value. -/
  | invalidValue (word : String)
  | duplicateKey (key : String)
  /-- A key that has a value already, where a table is wanted. -/
  | notTable (key : String)
  deriving DecidableEq, Repr, Inhabited

/-- The wording of a fault. -/
def Fault.message : Fault → String
  | .unexpectedEnd => "unexpected end of the document"
  | .unexpectedChar c => "unexpected character " ++ Text.literal (String.ofList [c])
  | .invalidEscape c => "invalid escape character " ++ Text.literal (String.ofList [c])
  | .invalidCode code => "invalid character code " ++ Decimal.natString code
  | .invalidValue word => "invalid value " ++ Text.ticked word
  | .duplicateKey key => "duplicate key " ++ Text.ticked key
  | .notTable key => "key " ++ Text.ticked key ++ " does not name a table"

/-- A scanner gives what stands at the front of a text, and what follows it. -/
abbrev Scan (α : Type) := List Char → Except Fault (α × List Char)

/-- Refuse the character that comes next, or the end of the text. -/
def refuse {α : Type} : List Char → Except Fault α
  | [] => .error .unexpectedEnd
  | c :: _ => .error (.unexpectedChar c)

/-- The characters of bare keys and of numbers: ASCII letters, digits, hyphen and underscore. -/
def isKeyChar (c : Char) : Bool :=
  c.isAlphanum || c == '-' || c == '_'

/-- True of a blank inside a line. -/
def isBlankChar (c : Char) : Bool := c == ' ' || c == '\t'

/-- What follows the blanks at the front of a text. -/
def skipBlanks (cs : List Char) : List Char := cs.dropWhile isBlankChar

/-- What follows the line break that ends a line; the end of the text ends its last line. -/
def endOfLine : List Char → Except Fault (List Char)
  | [] => .ok []
  | '\n' :: rest => .ok rest
  | c :: _ => .error (.unexpectedChar c)

/-- True of a character that may stand in a comment. -/
def isCommentChar (c : Char) : Bool := c == '\t' || ' ' ≤ c

/-- What follows a line of which only blanks and a comment are left. -/
def finishLine (cs : List Char) : Except Fault (List Char) :=
  match skipBlanks cs with
  | '#' :: rest => endOfLine (rest.dropWhile isCommentChar)
  | rest => endOfLine rest

end Toml

end FunctionBindings
