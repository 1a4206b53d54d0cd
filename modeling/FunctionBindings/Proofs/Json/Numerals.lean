import FunctionBindings.Json.Printer
import FunctionBindings.Json.Token

/-!
# Integers in JSON text

An integer of 64 bits, signed or unsigned, is written with its decimal digits and read back as the
same integer (`scanNumeral_intText`, `value?_ofInt`). Reading has to see where the digits end: what
follows must not go on with a digit, a point or the letter of an exponent, which `EndsNumeral` says.
-/

namespace FunctionBindings.Decimal

/-- Only zero is written with a leading zero. -/
theorem eq_nil_of_digits_eq_zero_cons {n : Nat} {ds : List Nat} (h : digits n = 0 :: ds) :
    ds = [] := by
  induction n using digits.induct generalizing ds with
  | case1 n hn =>
      rw [digits] at h
      simp only [hn, if_true, List.cons.injEq] at h
      exact h.2.symm
  | case2 n hn ih =>
      -- The first digit of `n` is that of `n / 10`; if it is zero, then `n / 10` has no other.
      rw [digits] at h
      simp only [hn, if_false] at h
      obtain ⟨d, later, hhead⟩ := List.exists_cons_of_ne_nil (digits_ne_nil (n / 10))
      rw [hhead, List.cons_append, List.cons.injEq] at h
      obtain ⟨rfl, -⟩ := h
      have hlater := ih hhead
      subst hlater
      have hvalue := ofDigits_digits (n / 10)
      simp only [hhead, ofDigits, List.foldl_cons, List.foldl_nil] at hvalue
      omega

end FunctionBindings.Decimal

namespace FunctionBindings.Json

open Decimal

/-- True of a text that does not go on with a numeral that stands in front of it. -/
def EndsNumeral : List Char → Prop
  | [] => True
  | c :: _ => digitValue? c = none ∧ c ≠ '.' ∧ c ≠ 'e' ∧ c ≠ 'E'

/-- True of the numbers that are written exactly: the integers of 64 bits, signed or unsigned. -/
def Number.IsExact : Number → Prop
  | .int n => -signedLimit ≤ n ∧ n < unsignedLimit
  | .float _ => False

/-- Written digits are taken in up to the end of the numeral. -/
theorem spanDigits_append {ds : List Nat} {rest : List Char} (hdigits : ∀ d ∈ ds, d < 10)
    (hrest : EndsNumeral rest) : spanDigits (ds.map digitChar ++ rest) = (ds, rest) := by
  induction ds with
  | nil =>
      cases rest with
      | nil => rfl
      | cons c rest => simp [spanDigits, hrest.1]
  | cons d ds ih =>
      have hd := digitValue?_digitChar d (hdigits d (by simp))
      have hlater := ih fun e he ↦ hdigits e (by simp [he])
      simp [spanDigits, hd, hlater]

/-- The digits of a written number are all of its digits before the point. -/
theorem scanWhole_natText (n : Nat) {rest : List Char} (hrest : EndsNumeral rest) :
    scanWhole (natText n ++ rest) = .ok (digits n, rest) := by
  have hspan : spanDigits ((digits n).map digitChar ++ rest) = (digits n, rest) :=
    spanDigits_append (fun _ hd ↦ lt_ten_of_mem_digits hd) hrest
  unfold scanWhole
  rw [natText, hspan]
  split
  · rename_i heq
    exact absurd (congrArg Prod.fst heq) (digits_ne_nil n)
  · rename_i heq
    exact absurd (eq_nil_of_digits_eq_zero_cons (congrArg Prod.fst heq)) (by simp)
  · rename_i heq
    rw [heq]

/-- A numeral that ends after its digits has no fraction. -/
theorem scanFraction_of_ends {rest : List Char} (hrest : EndsNumeral rest) :
    scanFraction rest = .ok (none, rest) := by
  unfold scanFraction
  split
  · exact absurd rfl hrest.2.1
  · rfl

/-- A numeral that ends after its digits has no exponent. -/
theorem scanExponent_of_ends {rest : List Char} (hrest : EndsNumeral rest) :
    scanExponent rest = .ok (none, rest) := by
  cases rest with
  | nil => rfl
  | cons c rest => simp [scanExponent, hrest.2.2.1, hrest.2.2.2]

/-- A written natural number is scanned as its digits, without fraction and exponent. -/
theorem scanUnsigned_natText (negative : Bool) (n : Nat) {rest : List Char}
    (hrest : EndsNumeral rest) :
    scanUnsigned negative (natText n ++ rest) = .ok (⟨negative, digits n, none, none⟩, rest) := by
  simp [scanUnsigned, scanWhole_natText n hrest, scanFraction_of_ends hrest,
    scanExponent_of_ends hrest]

/-- A written natural number begins with a digit. -/
theorem natText_eq_cons (n : Nat) :
    ∃ d ds, d < 10 ∧ natText n = digitChar d :: ds := by
  obtain ⟨d, ds, hdigits⟩ := List.exists_cons_of_ne_nil (digits_ne_nil n)
  refine ⟨d, ds.map digitChar, lt_ten_of_mem_digits (n := n) ?_, ?_⟩
  · simp [hdigits]
  · simp [natText, hdigits]

/-- The numeral that an integer is written as. -/
def Numeral.ofInt (n : Int) : Numeral :=
  ⟨decide (n < 0), digits n.natAbs, none, none⟩

/-- A written integer is scanned as its sign and its digits. -/
theorem scanNumeral_intText (n : Int) {rest : List Char} (hrest : EndsNumeral rest) :
    scanNumeral (intText n ++ rest) = .ok (.ofInt n, rest) := by
  cases n with
  | ofNat n =>
      obtain ⟨d, ds, hd, htext⟩ := natText_eq_cons n
      have hsign : digitChar d ≠ '-' := by
        have hall : ∀ d < 10, digitChar d ≠ '-' := by decide
        exact hall d hd
      have hpositive : ¬ (n : Int) < 0 := by omega
      have hscan := scanUnsigned_natText false n hrest
      rw [intText, scanNumeral.eq_def]
      -- A digit is no sign, so the numeral is scanned from its first character on.
      split
      · rename_i heq
        simp [htext, hsign] at heq
      · simpa [Numeral.ofInt, hpositive] using hscan
  | negSucc n =>
      have hscan := scanUnsigned_natText true (n + 1) hrest
      have hnegative : Int.negSucc n < 0 := Int.negSucc_lt_zero n
      simpa [intText, scanNumeral, Numeral.ofInt, hnegative] using hscan

/-- The numeral of an integer of 64 bits has that integer as its value. -/
theorem value?_ofInt {n : Int} (h : Number.IsExact (.int n)) :
    (Numeral.ofInt n).value? = some (.int n) := by
  obtain ⟨hlow, hhigh⟩ := h
  have hvalue := ofDigits_digits n.natAbs
  unfold Numeral.value? Numeral.ofInt
  simp only [hvalue]
  by_cases hn : n < 0
  · have hrange : 0 < n.natAbs ∧ n.natAbs ≤ signedLimit := by omega
    have habs : -(n.natAbs : Int) = n := by omega
    simp only [hn, hrange, habs, decide_true, and_self, if_true]
  · have hrange : n.natAbs < unsignedLimit := by omega
    have habs : (n.natAbs : Int) = n := by omega
    simp [hn, hrange, habs]

end FunctionBindings.Json
