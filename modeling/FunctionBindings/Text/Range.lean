/-!
# Sets of characters as ranges

A character class is given by ranges of code points, each with its first and last member.
-/

namespace FunctionBindings.Text

/-- A set of characters as a list of code point ranges, ends included. -/
abbrev Ranges := List (Nat × Nat)

/-- True of a code point in one of the ranges. -/
def Ranges.contains (ranges : Ranges) (code : Nat) : Bool :=
  ranges.any fun r ↦ r.1 ≤ code && code ≤ r.2

end FunctionBindings.Text
