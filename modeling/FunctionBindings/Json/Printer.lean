import FunctionBindings.Decimal.Layout
import FunctionBindings.Json.Value
import FunctionBindings.Text.Hex

/-!
# JSON text of values

The compact form has no blanks. The pretty form puts every item and member on a line of its own,
indented by two spaces a level, with `": "` after a key; an empty array or object stays on its line.
Strings escape the quote, the backslash and the control characters below U+0020, and nothing else.
-/

namespace FunctionBindings.Json

/-- How a character is written inside a string. -/
def escapeChar (c : Char) : List Char :=
  if c = '"' then ['\\', '"']
  else if c = '\\' then ['\\', '\\']
  else if c = '\n' then ['\\', 'n']
  else if c = '\r' then ['\\', 'r']
  else if c = '\t' then ['\\', 't']
  else if c = '\x08' then ['\\', 'b']
  else if c = '\x0c' then ['\\', 'f']
  else if c.toNat < 0x20 then
    ['\\', 'u', '0', '0', Text.hexDigit (c.toNat / 16), Text.hexDigit (c.toNat % 16)]
  else [c]

/-- The characters of a string between its quotes. -/
def escape (cs : List Char) : List Char :=
  cs.flatMap escapeChar

/-- A string with its quotes. -/
def quoted (text : String) : List Char :=
  '"' :: (escape text.toList ++ ['"'])

/-- The text of a number. -/
def Number.text : Number → List Char
  | .int n => Decimal.intText n
  | .float x => Decimal.Layout.json.text x

mutual

/-- The compact text of a value. -/
def compact : Json → List Char
  | .null => ['n', 'u', 'l', 'l']
  | .bool true => ['t', 'r', 'u', 'e']
  | .bool false => ['f', 'a', 'l', 's', 'e']
  | .number n => n.text
  | .string text => quoted text
  | .array [] => ['[', ']']
  | .array (item :: items) => '[' :: (compact item ++ compactItems items)
  | .object [] => ['\x7b', '\x7d']
  | .object ((key, value) :: members) =>
      '\x7b' :: (quoted key ++ ':' :: (compact value ++ compactMembers members))
termination_by structural value => value

/-- The items after the first one, each behind its comma, and the closing bracket. -/
def compactItems : List Json → List Char
  | [] => [']']
  | item :: items => ',' :: (compact item ++ compactItems items)
termination_by structural items => items

/-- The members after the first one, each behind its comma, and the closing brace. -/
def compactMembers : List (String × Json) → List Char
  | [] => ['\x7d']
  | (key, value) :: members =>
      ',' :: (quoted key ++ ':' :: (compact value ++ compactMembers members))
termination_by structural members => members

end

/-- A line break and the indentation of a level. -/
def newline (level : Nat) : List Char :=
  '\n' :: List.replicate (2 * level) ' '

mutual

/-- The pretty text of a value that stands at the given level. -/
def prettyAt : Json → Nat → List Char
  | .null, _ => ['n', 'u', 'l', 'l']
  | .bool true, _ => ['t', 'r', 'u', 'e']
  | .bool false, _ => ['f', 'a', 'l', 's', 'e']
  | .number n, _ => n.text
  | .string text, _ => quoted text
  | .array [], _ => ['[', ']']
  | .array (item :: items), level =>
      '[' :: (newline (level + 1) ++ (prettyAt item (level + 1) ++ prettyItems items level))
  | .object [], _ => ['\x7b', '\x7d']
  | .object ((key, value) :: members), level =>
      '\x7b' :: (newline (level + 1) ++ (quoted key ++ ':' :: ' ' ::
        (prettyAt value (level + 1) ++ prettyMembers members level)))
termination_by structural value => value

/-- The items after the first one of an array at the given level, and the closing bracket. -/
def prettyItems : List Json → Nat → List Char
  | [], level => newline level ++ [']']
  | item :: items, level =>
      ',' :: (newline (level + 1) ++ (prettyAt item (level + 1) ++ prettyItems items level))
termination_by structural items => items

/-- The members after the first one of an object at the given level, and the closing brace. -/
def prettyMembers : List (String × Json) → Nat → List Char
  | [], level => newline level ++ ['\x7d']
  | (key, value) :: members, level =>
      ',' :: (newline (level + 1) ++ (quoted key ++ ':' :: ' ' ::
        (prettyAt value (level + 1) ++ prettyMembers members level)))
termination_by structural members => members

end

/-- The compact text of a value, as a string. -/
def compactText (value : Json) : String :=
  String.ofList (compact value)

/-- The pretty text of a value, as a string. -/
def prettyText (value : Json) : String :=
  String.ofList (prettyAt value 0)

end FunctionBindings.Json
