import FunctionBindings.Decimal.Integer
import FunctionBindings.Decimal.Width
import FunctionBindings.Json.Fault
import FunctionBindings.Json.Value

/-!
# Numbers of JSON text

A numeral is split into its digits first (`scanNumeral`), and its digits are then given a value
(`Numeral.value?`). A numeral with neither fraction nor exponent is an integer if it fits 64 bits,
signed or unsigned; minus zero and all other numerals are doubles. A double is computed from as many
digits as fit an unsigned 64-bit significand and one power of ten, which is not always the nearest
double.
-/

namespace FunctionBindings.Json

/-- The digits of a numeral. -/
structure Numeral where
  negative : Bool
  whole : List Nat
  fraction : Option (List Nat)
  /-- The digits of the exponent, and whether it is negative. -/
  exponent : Option (Bool × List Nat)
  deriving DecidableEq, Repr

/-- The digits at the front of a text, and what follows them. -/
def spanDigits : List Char → List Nat × List Char
  | [] => ([], [])
  | c :: rest =>
      match Decimal.digitValue? c with
      | some d => (d :: (spanDigits rest).1, (spanDigits rest).2)
      | none => ([], c :: rest)

/-- A numeral that breaks off: whether the text ends there or goes on with another character. -/
structure NumeralFault where
  atEnd : Bool
  deriving DecidableEq, Repr

/-- The fault of a numeral that lacks a digit in front of `rest`. -/
def missingDigit (rest : List Char) : NumeralFault := ⟨rest.isEmpty⟩

/-- The fraction of a numeral, if there is one. -/
def scanFraction : List Char → Except NumeralFault (Option (List Nat) × List Char)
  | '.' :: rest =>
      match spanDigits rest with
      | ([], after) => .error (missingDigit after)
      | (ds, after) => .ok (some ds, after)
  | rest => .ok (none, rest)

/-- The digits of an exponent behind its sign. -/
def scanExponentDigits (negative : Bool) (rest : List Char) :
    Except NumeralFault (Option (Bool × List Nat) × List Char) :=
  match spanDigits rest with
  | ([], after) => .error (missingDigit after)
  | (ds, after) => .ok (some (negative, ds), after)

/-- The exponent of a numeral, if there is one. -/
def scanExponent : List Char → Except NumeralFault (Option (Bool × List Nat) × List Char)
  | c :: rest =>
      if c = 'e' ∨ c = 'E' then
        match rest with
        | '+' :: after => scanExponentDigits false after
        | '-' :: after => scanExponentDigits true after
        | _ => scanExponentDigits false rest
      else .ok (none, c :: rest)
  | [] => .ok (none, [])

/-- The digits before the point: a zero stands alone. -/
def scanWhole (rest : List Char) : Except NumeralFault (List Nat × List Char) :=
  match spanDigits rest with
  | ([], after) => .error (missingDigit after)
  | (0 :: _ :: _, _) => .error ⟨false⟩
  | (ds, after) => .ok (ds, after)

/-- A numeral without its sign. -/
def scanUnsigned (negative : Bool) (text : List Char) : Except NumeralFault (Numeral × List Char) :=
  match scanWhole text with
  | .error fault => .error fault
  | .ok (whole, afterWhole) =>
      match scanFraction afterWhole with
      | .error fault => .error fault
      | .ok (fraction, afterFraction) =>
          match scanExponent afterFraction with
          | .error fault => .error fault
          | .ok (exponent, after) => .ok (⟨negative, whole, fraction, exponent⟩, after)

/-- The numeral at the front of a text, and what follows it. -/
def scanNumeral : List Char → Except NumeralFault (Numeral × List Char)
  | '-' :: rest => scanUnsigned true rest
  | rest => scanUnsigned false rest

/-- Digits appended to a significand while it fits 64 bits, and the digits left over. -/
def accumulate : Nat → List Nat → Nat × List Nat
  | n, [] => (n, [])
  | n, d :: ds =>
      if 10 * n + d < Decimal.unsignedLimit then accumulate (10 * n + d) ds else (n, d :: ds)

/-- The double nearest to a power of ten from `1` to `1e308`. -/
def powerOfTen (exponent : Nat) : Float :=
  Float.ofScientific 1 false exponent

/-- A double divided by a power of ten, by `1e308` at a time. -/
def divideByPower (x : Float) (exponent : Nat) : Float :=
  if exponent ≤ 308 then x / powerOfTen exponent
  else if x == 0 then x
  else divideByPower (x / powerOfTen 308) (exponent - 308)
termination_by exponent

/-- A double multiplied by a power of ten, unless the product is beyond the doubles. -/
def multiplyByPower? (x : Float) (exponent : Nat) : Option Float :=
  if exponent ≤ 308 then
    let product := x * powerOfTen exponent
    if product.isInf then none else some product
  else if x == 0 then some x
  else none

/-- The double of a significand and a power of ten. -/
def scaledDouble? (significand : Nat) : Int → Option Float
  | .ofNat e => multiplyByPower? (UInt64.ofNat significand).toFloat e
  | .negSucc e => some (divideByPower (UInt64.ofNat significand).toFloat (e + 1))

/-- The exponent bounded to 32 bits. -/
def clampExponent (e : Int) : Int :=
  max (-Decimal.exponentLimit) (min (Decimal.exponentLimit - 1) e)

/-- The absolute value of a numeral as a double. -/
def Numeral.abs? (n : Numeral) : Option Float :=
  let (wholeSignificand, beyond) := accumulate 0 n.whole
  let fraction := n.fraction.getD []
  let (significand, unused) := accumulate wholeSignificand fraction
  let places : Int := beyond.length - (fraction.length - unused.length : Nat)
  match n.exponent with
  | none => scaledDouble? significand places
  | some (negative, ds) =>
      let e := Decimal.ofDigits ds
      if Decimal.exponentLimit ≤ e then
        if significand = 0 ∨ negative then some 0 else none
      else
        scaledDouble? significand (clampExponent (if negative then places - e else places + e))

/-- The value of a numeral; `none` if it is beyond the doubles. -/
def Numeral.value? (n : Numeral) : Option Number :=
  let signed (x : Float) : Number := .float (if n.negative then -x else x)
  match n.fraction, n.exponent with
  | none, none =>
      let value := Decimal.ofDigits n.whole
      if n.negative then
        if 0 < value ∧ value ≤ Decimal.signedLimit then some (.int (-value)) else n.abs?.map signed
      else if value < Decimal.unsignedLimit then some (.int value)
      else n.abs?.map signed
  | _, _ => n.abs?.map signed

end FunctionBindings.Json
