import FunctionBindings.Decimal.Shortest

/-!
# How decimals of doubles are laid out

The digits of a double are the same everywhere (`Decimal.shortest`); a layout says where positional
notation ends, whether an integral value keeps a fraction, and how the exponent is written.
-/

namespace FunctionBindings.Decimal

/-- The choices of one written form. Values with a decimal exponent (that of the first digit) from
`positional.1` up to but not including `positional.2` are written positionally; `none` writes all
values so. -/
structure Layout where
  positional : Option (Int × Int)
  integralFraction : Bool
  exponentPlus : Bool

/-- JSON text: positional from `1e-5` up to `1e16`, integral values end in `.0`, and a positive
exponent has its sign. -/
def Layout.json : Layout := ⟨some (-5, 16), true, true⟩

/-- Property text: always positional, and an integral value has no fraction. -/
def Layout.plain : Layout := ⟨none, false, false⟩

/-- Digits with a decimal point after the first `whole` of them; missing places are zeros. -/
def positionalText (integralFraction : Bool) (ds : List Char) (whole : Int) : List Char :=
  if whole ≤ 0 then
    ['0', '.'] ++ List.replicate (-whole).toNat '0' ++ ds
  else
    let places := whole.toNat
    if ds.length ≤ places then
      ds ++ List.replicate (places - ds.length) '0' ++ (if integralFraction then ['.', '0'] else [])
    else
      ds.take places ++ '.' :: ds.drop places

/-- One digit, a point and the other digits if there are any, and the exponent of the first digit.
-/
def scientificText (exponentPlus : Bool) (ds : List Char) (exponent : Int) : List Char :=
  let mantissa := match ds with
    | [] => []
    | [d] => [d]
    | d :: rest => d :: '.' :: rest
  let plus := if exponentPlus && 0 ≤ exponent then ['+'] else []
  mantissa ++ 'e' :: (plus ++ intText exponent)

/-- The text of a decimal other than zero. -/
def Layout.scaledText (layout : Layout) (d : Scaled) : List Char :=
  let ds := natText d.coefficient
  let exponent := d.exponent + ds.length - 1
  let isPositional := match layout.positional with
    | none => true
    | some (first, last) => decide (first ≤ exponent ∧ exponent < last)
  if isPositional then positionalText layout.integralFraction ds (exponent + 1)
  else scientificText layout.exponentPlus ds exponent

/-- The text of a double's absolute value; a value without digits is written as zero. -/
def Layout.absText (layout : Layout) (x : Float) : List Char :=
  let d := shortest x
  if d.coefficient = 0 then (if layout.integralFraction then ['0', '.', '0'] else ['0'])
  else layout.scaledText d

/-- The text of a finite double: its sign and its absolute value. -/
def Layout.text (layout : Layout) (x : Float) : List Char :=
  if isNegative x then '-' :: layout.absText x else layout.absText x

/-- The text of any double as a property: infinities and not-a-number have names. -/
def plainText (x : Float) : List Char :=
  if x.isNaN then "NaN".toList
  else if x.isInf then (if isNegative x then "-inf".toList else "inf".toList)
  else Layout.plain.text x

end FunctionBindings.Decimal
