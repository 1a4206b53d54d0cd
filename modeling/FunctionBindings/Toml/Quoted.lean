import FunctionBindings.Text.Hex
import FunctionBindings.Toml.Basic

/-!
# Strings of TOML text

A basic string stands between double quotes and has escapes; a literal string stands between single
quotes and has none. Either may extend over several lines if its quotes are tripled. Then a line
break right after the opening quotes is dropped, up to two quotes may stand right before the closing
ones, and in a basic string a backslash at the end of a line drops all blanks and line breaks up to
the next character.
-/

namespace FunctionBindings.Toml

/-- True of a character that stands for itself in a string of one line. -/
def isTextChar (c : Char) : Bool :=
  c == '\t' || (' ' ≤ c && c != '\x7f')

/-- What an escape of one letter stands for. -/
def escaped? (c : Char) : Option Char :=
  if c = '"' then some '"'
  else if c = '\\' then some '\\'
  else if c = 'b' then some '\x08'
  else if c = 'f' then some '\x0c'
  else if c = 'n' then some '\n'
  else if c = 'r' then some '\r'
  else if c = 't' then some '\t'
  else none

/-- The character with a code. -/
def charOfCode (code : Nat) : Except Fault Char :=
  if code.isValidChar then .ok (Char.ofNat code) else .error (.invalidCode code)

/-- The end of a string whose quotes stand at the front of a text: the quotes that still belong to
it, and what follows. -/
def closing? (quote : Char) (multiline : Bool) (cs : List Char) : Option (List Char × List Char) :=
  let quotes := cs.takeWhile (· = quote)
  if multiline then
    if quotes.length < 3 then none
    else
      let extra := min 2 (quotes.length - 3)
      some (List.replicate extra quote, cs.drop (3 + extra))
  else if quotes.isEmpty then none
  else some ([], cs.drop 1)

/-- Where a scanner stands in a basic string. -/
inductive Mode where
  | plain
  /-- Behind a backslash. -/
  | escape
  /-- In a character's code, of which some digits are missing. -/
  | code (missing : Nat) (value : Nat)
  /-- Behind a backslash and blanks, where a line break has to follow. -/
  | lineEnd
  /-- In the blanks that a line's last backslash drops. -/
  | gap

/-- A scanned string with characters in front. -/
def prepend (cs : List Char) (result : Except Fault (List Char × List Char)) :
    Except Fault (List Char × List Char) :=
  result.map fun scanned ↦ (cs ++ scanned.1, scanned.2)

/-- The characters of a basic string up to its closing quotes. -/
def scanBasic (multiline : Bool) : Mode → Scan (List Char)
  | _, [] => .error .unexpectedEnd
  | .escape, c :: rest =>
      if c = 'u' then scanBasic multiline (.code 3 0) rest
      else if c = 'U' then scanBasic multiline (.code 7 0) rest
      else match escaped? c with
      | some d => prepend [d] (scanBasic multiline .plain rest)
      | none =>
          if multiline && c == '\n' then scanBasic multiline .gap rest
          else if multiline && isBlankChar c then scanBasic multiline .lineEnd rest
          else .error (.invalidEscape c)
  | .code missing value, c :: rest =>
      match Text.hexValue? c with
      | none => .error (.invalidEscape c)
      | some d =>
          match missing with
          | missing + 1 => scanBasic multiline (.code missing (16 * value + d)) rest
          | 0 =>
              match charOfCode (16 * value + d) with
              | .ok e => prepend [e] (scanBasic multiline .plain rest)
              | .error fault => .error fault
  | .lineEnd, c :: rest =>
      if c = '\n' then scanBasic multiline .gap rest
      else if isBlankChar c then scanBasic multiline .lineEnd rest
      else .error (.invalidEscape c)
  | mode, c :: rest =>
      if mode matches .gap && (isBlankChar c || c == '\n') then scanBasic multiline .gap rest
      else match closing? '"' multiline (c :: rest) with
      | some closed => .ok closed
      | none =>
          if c = '\\' then scanBasic multiline .escape rest
          else if isTextChar c || (multiline && c == '\n') then
            prepend [c] (scanBasic multiline .plain rest)
          else .error (.unexpectedChar c)

/-- The characters of a literal string up to its closing quotes. -/
def scanLiteral (multiline : Bool) : Scan (List Char)
  | [] => .error .unexpectedEnd
  | c :: rest =>
      match closing? '\'' multiline (c :: rest) with
      | some closed => .ok closed
      | none =>
          if isTextChar c || (multiline && c == '\n') then prepend [c] (scanLiteral multiline rest)
          else .error (.unexpectedChar c)

/-- The characters of a string behind its first quote. -/
def scanQuoted (quote : Char) (multiline : Bool) : Scan (List Char) :=
  if quote = '"' then scanBasic multiline .plain else scanLiteral multiline

/-- A text without the line break at its front. -/
def dropLineBreak : List Char → List Char
  | '\n' :: rest => rest
  | cs => cs

/-- The string behind a quote, and whether it may extend over several lines. -/
def scanString (quote : Char) (rest : List Char) :
    Except Fault ((String × Bool) × List Char) :=
  let multiline := rest.take 2 == [quote, quote]
  let body := if multiline then dropLineBreak (rest.drop 2) else rest
  (scanQuoted quote multiline body).map fun scanned ↦
    ((String.ofList scanned.1, multiline), scanned.2)

end FunctionBindings.Toml
