import FunctionBindings.Decimal.Integer

/-!
# The shortest decimal of a double

A finite double stands for an interval of real numbers: those that round to it. Among the decimals
in that interval we take one on the coarsest power-of-ten grid that has a point in it, which has the
fewest digits, and of two such points the nearer one (at an exact tie the even one). All tests are
exact comparisons of natural numbers.
-/

namespace FunctionBindings.Decimal

/-- A positive double as `significand * 2 ^ exponent`, with the interval that rounds to it: from
`low` to `high` in quarters of the significand's unit, the ends included when `closed` holds. -/
structure Rounding where
  significand : Nat
  exponent : Int
  low : Nat
  high : Nat
  closed : Bool

/-- A nonnegative decimal `coefficient * 10 ^ exponent`. -/
structure Scaled where
  coefficient : Nat
  exponent : Int
  deriving DecidableEq, Repr, Inhabited

/-- The sign bit of a double, as the bits of its binary form give it. -/
def isNegative (x : Float) : Bool :=
  x.toBits >>> 63 == 1

/-- The interval of a finite double's absolute value; `none` for zero, infinities and not-a-number.
-/
def Rounding.ofFloat? (x : Float) : Option Rounding :=
  let bits : Nat := x.toBits.toNat
  let biased : Nat := bits / Nat.pow 2 52 % Nat.pow 2 11
  let fraction : Nat := bits % Nat.pow 2 52
  if biased = 2047 then none
  else if biased = 0 then
    if fraction = 0 then none
    else some ⟨fraction, -1074, 4 * fraction - 2, 4 * fraction + 2, fraction % 2 == 0⟩
  else
    let m := fraction + Nat.pow 2 52
    let below := if fraction = 0 ∧ 1 < biased then 1 else 2
    some ⟨m, (biased : Int) - 1075, 4 * m - below, 4 * m + 2, m % 2 == 0⟩

/-- A power with an integer exponent as a numerator and a denominator. -/
def powerRatio (base : Nat) (exponent : Int) : Nat × Nat :=
  if 0 ≤ exponent then (Nat.pow base exponent.toNat, 1)
  else (1, Nat.pow base (-exponent).toNat)

/-- The point of the grid of multiples of `10 ^ exponent` that stands for the double: the neighbour
of the value that lies in the interval, of two the nearer. -/
def Rounding.onGrid? (r : Rounding) (exponent : Int) : Option Scaled :=
  let (binaryNum, binaryDen) := powerRatio 2 (r.exponent - 2)
  let (decimalNum, decimalDen) := powerRatio 10 exponent
  let unit := decimalNum * binaryDen
  let scale := binaryNum * decimalDen
  let value := 4 * r.significand * scale
  let below := value / unit
  let within (c : Nat) : Bool :=
    let point := c * unit
    0 < c && (if r.closed then r.low * scale ≤ point && point ≤ r.high * scale
      else r.low * scale < point && point < r.high * scale)
  let distanceBelow := value - below * unit
  let distanceAbove := (below + 1) * unit - value
  match within below, within (below + 1) with
  | false, false => none
  | true, false => some ⟨below, exponent⟩
  | false, true => some ⟨below + 1, exponent⟩
  | true, true =>
      if distanceBelow < distanceAbove then some ⟨below, exponent⟩
      else if distanceAbove < distanceBelow then some ⟨below + 1, exponent⟩
      else some ⟨if below % 2 = 0 then below else below + 1, exponent⟩

/-- The first grid, from `10 ^ start` downwards, that has a point for the double. -/
def Rounding.coarsest (r : Rounding) (start : Int) : Nat → Option Scaled
  | 0 => none
  | steps + 1 => (r.onGrid? start).orElse fun _ ↦ r.coarsest (start - 1) steps

/-- The shortest decimal that reads back as the absolute value of a finite double. Every grid from
`10 ^ 308` down to `10 ^ -324` is tried, and the last one is finer than every interval. -/
def shortest (x : Float) : Scaled :=
  match Rounding.ofFloat? x with
  | none => ⟨0, 0⟩
  | some r => (r.coarsest 308 633).getD ⟨0, 0⟩

end FunctionBindings.Decimal
