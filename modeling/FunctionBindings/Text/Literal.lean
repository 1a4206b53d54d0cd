import FunctionBindings.Text.Hex
import FunctionBindings.Text.Printable

/-!
# Quoted literals

The literal of a text is enclosed in double quotes. Tab, line feed, carriage return, NUL, the double
quote and the backslash have short escapes; any other character that is not printable or joins the
one before it is written by its hexadecimal code point, and all else stands for itself.
-/

namespace FunctionBindings.Text

/-- How a character is written inside a literal. -/
def literalChar (c : Char) : List Char :=
  if c = '\t' then ['\\', 't']
  else if c = '\n' then ['\\', 'n']
  else if c = '\r' then ['\\', 'r']
  else if c = '\x00' then ['\\', '0']
  else if c = '"' then ['\\', '"']
  else if c = '\\' then ['\\', '\\']
  else if isPrintable c && !isExtending c then [c]
  else ['\\', 'u', '\x7b'] ++ hexDigits c.toNat ++ ['\x7d']

/-- The characters of the literal of a text. -/
def literalChars (cs : List Char) : List Char :=
  '"' :: (cs.flatMap literalChar ++ ['"'])

/-- The literal of a text. -/
def literal (text : String) : String :=
  String.ofList (literalChars text.toList)

/-- A name between backquotes, as messages show it. -/
def ticked (name : String) : String :=
  "`" ++ name ++ "`"

end FunctionBindings.Text
