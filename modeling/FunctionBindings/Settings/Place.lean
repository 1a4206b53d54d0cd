import FunctionBindings.Decimal.Width
import FunctionBindings.Settings.Setting

/-!
# Written places

A place in the settings is written as a key, followed by more keys behind points and by indices in
brackets. The keys of written places have ASCII letters, digits, blanks, underscores and hyphens
only; any other text is a key as it stands.
-/

namespace FunctionBindings.Setting

/-- True of a character that a key in a written place may have. -/
def isPlaceChar (c : Char) : Bool :=
  c.isAlphanum || c == ' ' || c == '_' || c == '-'

/-- The number that decimal digits with an optional sign are. -/
def signedNumber? (cs : List Char) : Option Int :=
  let (negative, digits) := match cs with
    | '-' :: rest => (true, rest)
    | '+' :: rest => (false, rest)
    | rest => (false, rest)
  if digits.isEmpty then none
  else (digits.mapM Decimal.digitValue?).bind fun ds ↦
    let value : Int := Decimal.ofDigits ds
    let signed := if negative then -value else value
    if Decimal.isSigned signed then some signed else none

/-- The index between brackets, with blanks around it. -/
def index? (cs : List Char) : Option Int :=
  let trim (cs : List Char) : List Char := cs.dropWhile Toml.isBlankChar
  signedNumber? (trim (trim cs).reverse).reverse

/-- The steps behind the first key of a written place. -/
def steps? : Nat → List Char → Option (List Step)
  | _, [] => some []
  | 0, _ => none
  | fuel + 1, '.' :: rest =>
      match rest.takeWhile isPlaceChar with
      | [] => none
      | key =>
          (steps? fuel (rest.dropWhile isPlaceChar)).map (.key (String.ofList key) :: ·)
  | fuel + 1, '[' :: rest => do
      let position ← index? (rest.takeWhile (· ≠ ']'))
      match rest.dropWhile (· ≠ ']') with
      | [] => none
      | _ :: after => (steps? fuel after).map (.index position :: ·)
  | _ + 1, _ => none

/-- The path that a text is as a written place. -/
def written? (text : String) : Option (List Step) :=
  let cs := text.toList
  match cs.takeWhile isPlaceChar with
  | [] => none
  | key => (steps? cs.length (cs.dropWhile isPlaceChar)).map (.key (String.ofList key) :: ·)

/-- The path that a text stands for. -/
def pathOf (text : String) : List Step :=
  (written? text).getD [.key text]

end FunctionBindings.Setting
