/-!
# Widths of integers

Integers of 64 bits, signed and unsigned, and the exponents of 32 bits that numerals may have.
-/

namespace FunctionBindings.Decimal

/-- The first number that an unsigned integer of 64 bits cannot hold. -/
def unsignedLimit : Nat := 18446744073709551616

/-- The first number that a signed integer of 64 bits cannot hold. -/
def signedLimit : Nat := 9223372036854775808

/-- The first number that a signed exponent of 32 bits cannot hold. -/
def exponentLimit : Nat := 2147483648

/-- True of the integers that have 64 bits with their sign. -/
def isSigned (n : Int) : Bool :=
  decide (-signedLimit ≤ n ∧ n < signedLimit)

end FunctionBindings.Decimal
