/-!
# Decimal text of integers

Natural numbers are written with their decimal digits, most significant first and without a leading
zero; negative integers with a minus sign in front. `ofDigits_digits` says that the digits of a
number give it back.
-/

namespace FunctionBindings.Decimal

/-- The decimal digits of a number, most significant first; zero has the one digit `0`. -/
def digits (n : Nat) : List Nat :=
  if n < 10 then [n] else digits (n / 10) ++ [n % 10]

/-- The number with the given decimal digits, most significant first. -/
def ofDigits (ds : List Nat) : Nat :=
  ds.foldl (fun n d ↦ 10 * n + d) 0

/-- The character of a decimal digit. -/
def digitChar (d : Nat) : Char :=
  Char.ofNat ('0'.toNat + d)

/-- The value of a character that is an ASCII decimal digit. -/
def digitValue? (c : Char) : Option Nat :=
  if '0' ≤ c ∧ c ≤ '9' then some (c.toNat - '0'.toNat) else none

/-- The decimal text of a natural number. -/
def natText (n : Nat) : List Char :=
  (digits n).map digitChar

/-- The decimal text of an integer. -/
def intText : Int → List Char
  | .ofNat n => natText n
  | .negSucc n => '-' :: natText (n + 1)

/-- The decimal text of a natural number, as a string. -/
def natString (n : Nat) : String := String.ofList (natText n)

/-- Appending a digit multiplies by ten and adds the digit. -/
theorem ofDigits_append_singleton (ds : List Nat) (d : Nat) :
    ofDigits (ds ++ [d]) = 10 * ofDigits ds + d := by
  simp [ofDigits, List.foldl_append]

/-- The digits of a number give it back. -/
theorem ofDigits_digits (n : Nat) : ofDigits (digits n) = n := by
  induction n using digits.induct with
  | case1 n h => rw [digits]; simp [h, ofDigits]
  | case2 n h ih =>
      rw [digits]
      simp only [h, if_false, ofDigits_append_singleton, ih]
      omega

/-- Every digit of a number is below ten. -/
theorem lt_ten_of_mem_digits {n d : Nat} (h : d ∈ digits n) : d < 10 := by
  induction n using digits.induct with
  | case1 n hn =>
      rw [digits] at h
      simp only [hn, if_true, List.mem_singleton] at h
      omega
  | case2 n hn ih =>
      rw [digits] at h
      simp only [hn, if_false, List.mem_append, List.mem_singleton] at h
      rcases h with h | h
      · exact ih h
      · omega

/-- A number has at least one digit. -/
theorem digits_ne_nil (n : Nat) : digits n ≠ [] := by
  rw [digits]
  split <;> simp

/-- The character of a digit has the digit's value. -/
theorem digitValue?_digitChar : ∀ d < 10, digitValue? (digitChar d) = some d := by
  decide

end FunctionBindings.Decimal
