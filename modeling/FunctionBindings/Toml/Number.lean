import FunctionBindings.Decimal.Width
import FunctionBindings.Text.Hex
import FunctionBindings.Toml.Basic

/-!
# Numbers of TOML text

An integer has decimal, hexadecimal, octal or binary digits, a float has a fraction or an exponent,
and single underscores may stand between digits. A decimal number has no leading zeros. A plus sign
may stand in front of any number.
-/

namespace FunctionBindings.Toml

/-- The value of a digit in a numeral system. -/
def digit? (base : Nat) (c : Char) : Option Nat :=
  (Text.hexValue? c).filter (· < base)

/-- The digits at the front of a text, with single underscores between them. -/
def spanGrouped (base : Nat) : Bool → List Char → Option (List Nat × List Char)
  | afterDigit, [] => if afterDigit then some ([], []) else none
  | afterDigit, c :: rest =>
      match digit? base c with
      | some d => (spanGrouped base true rest).map fun scanned ↦ (d :: scanned.1, scanned.2)
      | none =>
          if !afterDigit then none
          else if c = '_' then spanGrouped base false rest
          else some ([], c :: rest)

/-- The number with the given digits. -/
def ofDigits (base : Nat) (ds : List Nat) : Nat :=
  ds.foldl (fun n d ↦ base * n + d) 0

/-- The integer, if it has no more than 64 bits. -/
def integer? (value : Int) : Option Toml :=
  if Decimal.isSigned value then some (.integer value) else none

/-- An integer in a numeral system other than the decimal one. -/
def based? (base : Nat) (cs : List Char) : Option Toml :=
  match spanGrouped base false cs with
  | some (ds, []) => integer? (ofDigits base ds)
  | _ => none

/-- The sign in front of a text: true for minus. -/
def splitMinus : List Char → Bool × List Char
  | '-' :: rest => (true, rest)
  | cs => (false, cs)

/-- The decimal digits behind a point, if there is one. -/
def fraction? : List Char → Option (List Nat × List Char)
  | '.' :: rest => spanGrouped 10 false rest
  | cs => some ([], cs)

/-- The exponent at the front of a text; zero if there is none. -/
def exponent? : List Char → Option (Int × List Char)
  | [] => some (0, [])
  | c :: rest =>
      if c = 'e' ∨ c = 'E' then
        let (negative, ds) := match rest with
          | '+' :: after => (false, after)
          | after => splitMinus after
        (spanGrouped 10 false ds).map fun scanned ↦
          let value : Int := ofDigits 10 scanned.1
          (if negative then -value else value, scanned.2)
      else some (0, c :: rest)

/-- The double nearest to a decimal, if it is finite. -/
def nearest? (ds : List Nat) (exponent : Int) : Option Float :=
  let coefficient := ofDigits 10 ds
  if coefficient = 0 ∨ exponent + ds.length < -400 then some 0
  else if 400 < exponent then none
  else
    let value := if exponent < 0 then Float.ofScientific coefficient true exponent.natAbs
      else Float.ofScientific coefficient false exponent.natAbs
    if value.isInf then none else some value

/-- A number whose whole digits have been scanned. -/
def ofWhole? (negative : Bool) (whole : List Nat) : List Char → Option Toml
  | [] =>
      let value : Int := ofDigits 10 whole
      integer? (if negative then -value else value)
  | rest => do
      let (fraction, rest) ← fraction? rest
      let (exponent, rest) ← exponent? rest
      let value ← nearest? (whole ++ fraction) (exponent - fraction.length)
      if rest.isEmpty then some (.float (if negative then -value else value)) else none

/-- A decimal number, or the name of an infinity or of not-a-number. -/
def decimal? (cs : List Char) : Option Toml :=
  let (negative, digits) := splitMinus cs
  if digits = ['i', 'n', 'f'] then
    some (.float (if negative then -1.0 / 0.0 else 1.0 / 0.0))
  else if digits = ['n', 'a', 'n'] then some (.float (0.0 / 0.0))
  else
    match spanGrouped 10 false digits with
    | none => none
    | some (0 :: _ :: _, _) => none
    | some (whole, rest) => ofWhole? negative whole rest

/-- The number that a word is. -/
def number? (word : List Char) : Option Toml :=
  match (match word with | '+' :: rest => rest | _ => word) with
  | '0' :: 'x' :: cs => based? 16 cs
  | '0' :: 'o' :: cs => based? 8 cs
  | '0' :: 'b' :: cs => based? 2 cs
  | cs => decimal? cs

end FunctionBindings.Toml
