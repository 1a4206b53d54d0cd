/-!
# Hexadecimal digits

Numbers are written in lower-case hexadecimal and read in either case. `hexValue?_hexDigit` says
that a written digit reads back.
-/

namespace FunctionBindings.Text

/-- The lower-case hexadecimal digit of a number below sixteen. -/
def hexDigit (n : Nat) : Char :=
  if n < 10 then Char.ofNat ('0'.toNat + n) else Char.ofNat ('a'.toNat + (n - 10))

/-- The value of a hexadecimal digit in either case. -/
def hexValue? (c : Char) : Option Nat :=
  if '0' ≤ c ∧ c ≤ '9' then some (c.toNat - '0'.toNat)
  else if 'a' ≤ c ∧ c ≤ 'f' then some (c.toNat - 'a'.toNat + 10)
  else if 'A' ≤ c ∧ c ≤ 'F' then some (c.toNat - 'A'.toNat + 10)
  else none

/-- The hexadecimal digits of a number, most significant first. -/
def hexDigits (n : Nat) : List Char :=
  if n < 16 then [hexDigit n] else hexDigits (n / 16) ++ [hexDigit (n % 16)]

/-- The number that a list of hexadecimal digits stands for. -/
def ofHexDigits? (cs : List Char) : Option Nat :=
  cs.foldlM (fun n c ↦ (hexValue? c).map (16 * n + ·)) 0

/-- A written digit reads back. -/
theorem hexValue?_hexDigit : ∀ n < 16, hexValue? (hexDigit n) = some n := by
  decide

end FunctionBindings.Text
