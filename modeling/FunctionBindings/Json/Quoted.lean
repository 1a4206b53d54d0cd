import FunctionBindings.Json.Fault
import FunctionBindings.Text.Hex

/-!
# Strings of JSON text

Two readings of the characters after an opening quote. `skipQuoted` only finds the end of the
string; it accepts every escape that is well formed. `readQuoted` also computes the characters, so
it refuses escapes of surrogates that do not come as a pair. Where both succeed they agree on what
follows (`skipQuoted_of_readQuoted`).
-/

namespace FunctionBindings.Json

/-- The character that a one-letter escape stands for. -/
def letterEscape? (c : Char) : Option Char :=
  if c = '"' then some '"'
  else if c = '\\' then some '\\'
  else if c = '/' then some '/'
  else if c = 'b' then some '\x08'
  else if c = 'f' then some '\x0c'
  else if c = 'n' then some '\n'
  else if c = 'r' then some '\r'
  else if c = 't' then some '\t'
  else none

/-- The UTF-16 unit of a four-digit escape. -/
def unitEscape? (a b c d : Char) : Option Nat :=
  Text.ofHexDigits? [a, b, c, d]

/-- The fault of an escape without four hexadecimal digits: a text with fewer than four bytes left
has ended in it. -/
def unitFault (rest : List Char) : TextFault :=
  if (String.ofList rest).utf8ByteSize < 4 then .endInString else .invalidEscape

/-- True of the first unit of a surrogate pair. -/
def isLeading (unit : Nat) : Bool := 0xD800 ≤ unit && unit ≤ 0xDBFF

/-- True of the second unit of a surrogate pair. -/
def isTrailing (unit : Nat) : Bool := 0xDC00 ≤ unit && unit ≤ 0xDFFF

/-- The character of a surrogate pair. -/
def pairChar (leading trailing : Nat) : Char :=
  Char.ofNat (0x10000 + (leading - 0xD800) * 0x400 + (trailing - 0xDC00))

/-- What follows the closing quote of a string whose characters are not wanted. -/
def skipQuoted : List Char → Except TextFault (List Char)
  | [] => .error .endInString
  | '\\' :: 'u' :: a :: b :: c :: d :: rest =>
      match unitEscape? a b c d with
      | some _ => skipQuoted rest
      | none => .error (unitFault (a :: b :: c :: d :: rest))
  | '\\' :: 'u' :: rest => .error (unitFault rest)
  | '\\' :: c :: rest => if (letterEscape? c).isSome then skipQuoted rest else .error .invalidEscape
  | ['\\'] => .error .endInString
  | '"' :: rest => .ok rest
  | c :: rest => if c.toNat < 0x20 then .error .controlCharacter else skipQuoted rest
termination_by structural cs => cs

/-- A character read in front of the others. -/
def pushChar (c : Char) :
    Except TextFault (List Char × List Char) → Except TextFault (List Char × List Char)
  | .ok (cs, rest) => .ok (c :: cs, rest)
  | .error fault => .error fault

/-- The fault of what follows the first unit of a surrogate pair when it is no second unit. -/
def pairFault : List Char → TextFault
  | [] => .endInString
  | ['\\'] => .endInString
  | '\\' :: 'u' :: rest => unitFault rest
  | _ => .brokenSurrogatePair

/-- The characters of a string, and what follows its closing quote. -/
def readQuoted : List Char → Except TextFault (List Char × List Char)
  | [] => .error .endInString
  | '\\' :: 'u' :: a :: b :: c :: d :: '\\' :: 'u' :: a' :: b' :: c' :: d' :: rest =>
      match unitEscape? a b c d with
      | none => .error (unitFault (a :: b :: c :: d :: '\\' :: 'u' :: a' :: b' :: c' :: d' :: rest))
      | some unit =>
          if isTrailing unit then .error .loneSurrogate
          else if isLeading unit then
            match unitEscape? a' b' c' d' with
            | none => .error (unitFault (a' :: b' :: c' :: d' :: rest))
            | some next =>
                if isTrailing next then pushChar (pairChar unit next) (readQuoted rest)
                else .error .loneSurrogate
          else pushChar (Char.ofNat unit)
            (readQuoted ('\\' :: 'u' :: a' :: b' :: c' :: d' :: rest))
  | '\\' :: 'u' :: a :: b :: c :: d :: rest =>
      match unitEscape? a b c d with
      | none => .error (unitFault (a :: b :: c :: d :: rest))
      | some unit =>
          if isTrailing unit then .error .loneSurrogate
          else if isLeading unit then .error (pairFault rest)
          else pushChar (Char.ofNat unit) (readQuoted rest)
  | '\\' :: 'u' :: rest => .error (unitFault rest)
  | '\\' :: c :: rest =>
      match letterEscape? c with
      | some value => pushChar value (readQuoted rest)
      | none => .error .invalidEscape
  | ['\\'] => .error .endInString
  | '"' :: rest => .ok ([], rest)
  | c :: rest =>
      if c.toNat < 0x20 then .error .controlCharacter else pushChar c (readQuoted rest)
termination_by structural cs => cs

/-- A character pushed in front of a reading leaves what follows. -/
theorem pushChar_eq_ok {c : Char} {r : Except TextFault (List Char × List Char)}
    {cs rest : List Char} (h : pushChar c r = .ok (cs, rest)) :
    ∃ tail, r = .ok (tail, rest) ∧ cs = c :: tail := by
  cases r with
  | error fault => simp [pushChar] at h
  | ok p =>
      obtain ⟨tail, rest'⟩ := p
      simp only [pushChar, Except.ok.injEq, Prod.mk.injEq] at h
      exact ⟨tail, by rw [h.2], h.1.symm⟩

/-- A string that can be read can be skipped, up to the same place. -/
theorem skipQuoted_of_readQuoted {text cs rest : List Char}
    (h : readQuoted text = .ok (cs, rest)) : skipQuoted text = .ok rest := by
  fun_induction readQuoted text generalizing cs <;>
    grind [skipQuoted, pushChar_eq_ok]

end FunctionBindings.Json
