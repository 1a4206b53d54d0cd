import FunctionBindings.Toml.Basic

/-!
# Dates and times of TOML text

A date, a time, or a date with a time and perhaps an offset from universal time. In normal form a
`T` stands between date and time, a fraction of a second has no zeros at its end, and `Z` is a
capital.
-/

namespace FunctionBindings.Toml

/-- A number of exactly so many decimal digits. -/
def fixedDigits? : Nat → List Char → Option (List Nat × List Char)
  | 0, cs => some ([], cs)
  | _ + 1, [] => none
  | count + 1, c :: rest => do
      let d ← Decimal.digitValue? c
      let (ds, rest) ← fixedDigits? count rest
      return (d :: ds, rest)

/-- A number of two digits up to a limit. -/
def pair? (low high : Nat) (cs : List Char) : Option (Nat × List Char) := do
  let (ds, rest) ← fixedDigits? 2 cs
  let value := Decimal.ofDigits ds
  if low ≤ value ∧ value ≤ high then some (value, rest) else none

/-- What follows a character that has to come next. -/
def expect? (c : Char) : List Char → Option (List Char)
  | d :: rest => if d = c then some rest else none
  | [] => none

/-- The two digits of a small number. -/
def twoDigits (n : Nat) : List Char :=
  [Decimal.digitChar (n / 10 % 10), Decimal.digitChar (n % 10)]

/-- A date at the front of a text, in normal form. -/
def date? (cs : List Char) : Option (List Char × List Char) := do
  let (year, rest) ← fixedDigits? 4 cs
  let rest ← expect? '-' rest
  let (month, rest) ← pair? 1 12 rest
  let rest ← expect? '-' rest
  let (day, rest) ← pair? 1 31 rest
  return (year.map Decimal.digitChar ++ '-' :: (twoDigits month ++ '-' :: twoDigits day), rest)

/-- Digits of a fraction up to billionths, without zeros at the end. -/
def fractionText (digits : List Char) : List Char :=
  match ((digits.take 9).reverse.dropWhile (· = '0')).reverse with
  | [] => []
  | ds => '.' :: ds

/-- A fraction of a second at the front of a text, if there is one, in normal form. -/
def fractionOfSecond? : List Char → Option (List Char × List Char)
  | '.' :: rest =>
      let digits := rest.takeWhile Char.isDigit
      if digits.isEmpty then none
      else some (fractionText digits, rest.dropWhile Char.isDigit)
  | cs => some ([], cs)

/-- A time at the front of a text, in normal form. -/
def time? (cs : List Char) : Option (List Char × List Char) := do
  let (hour, rest) ← pair? 0 24 cs
  let rest ← expect? ':' rest
  let (minute, rest) ← pair? 0 59 rest
  let rest ← expect? ':' rest
  let (second, rest) ← pair? 0 59 rest
  let (fraction, rest) ← fractionOfSecond? rest
  let clock := twoDigits hour ++ ':' :: (twoDigits minute ++ ':' :: twoDigits second)
  return (clock ++ fraction, rest)

/-- An offset that is all of a text, in normal form; an empty text is no offset. -/
def offset? : List Char → Option (List Char)
  | [] => some []
  | ['Z'] => some ['Z']
  | ['z'] => some ['Z']
  | sign :: rest => do
      if sign ≠ '+' ∧ sign ≠ '-' then none
      else
        let (hours, rest) ← pair? 0 99 rest
        let rest ← expect? ':' rest
        let (minutes, rest) ← pair? 0 99 rest
        if rest.isEmpty then
          let shown := if hours = 0 then '+' else sign
          some (shown :: (twoDigits hours ++ ':' :: twoDigits minutes))
        else none

/-- True of a character that may stand between a date and a time. -/
def isTimeMark (c : Char) : Bool := c == 'T' || c == 't' || c == ' '

/-- What follows a date: nothing, or a time and perhaps an offset. -/
def afterDate? : List Char → Option (List Char)
  | [] => some []
  | c :: rest =>
      if isTimeMark c then do
        let (time, rest) ← time? rest
        let offset ← offset? rest
        return 'T' :: (time ++ offset)
      else none

/-- The date or time that a word is, in normal form. -/
def moment? (word : List Char) : Option (List Char) :=
  match date? word with
  | some (date, rest) => (afterDate? rest).map (date ++ ·)
  | none =>
      match time? word with
      | some (time, []) => some time
      | _ => none

/-- True of a word that is a date and nothing else. -/
def isDate (word : List Char) : Bool :=
  match date? word with
  | some (_, []) => true
  | _ => false

end FunctionBindings.Toml
