import FunctionBindings.Decimal.Layout
import Mathlib.Algebra.Group.Nat.Defs

/-!
# Plain texts of numbers

The text of a number where no JSON is due, said without the functions that lay it out. Integers are
written as the standard library writes them (`Decimal.ofList_intText`). A finite double is its
shortest decimal in positional notation, behind a sign; the other doubles have names
(`Decimal.plainText_eq_iff`).
-/

namespace FunctionBindings.Decimal

/-- The digits of natural numbers are those of the standard library. -/
theorem natText_eq (n : Nat) : natText n = Nat.toDigits 10 n := by
  have hdigit : ∀ d < 10, digitChar d = Nat.digitChar d := by decide
  induction n using digits.induct with
  | case1 n hn =>
      rw [Nat.toDigits_of_lt_base hn, natText, digits, if_pos hn, List.map_singleton, hdigit n hn]
  | case2 n hn ih =>
      rw [Nat.toDigits_eq_if (by decide), if_neg hn, ← ih, natText, digits, if_neg hn,
        List.map_append, List.map_singleton, hdigit _ (Nat.mod_lt n (by decide))]
      rfl

/-- Integers are written as the standard library writes them. -/
theorem ofList_intText (n : Int) : String.ofList (intText n) = toString n := by
  cases n with
  | ofNat n => exact congrArg String.ofList (natText_eq n)
  | negSucc n =>
      rw [intText, natText_eq, show '-' :: Nat.toDigits 10 (n + 1) =
        "-".toList ++ Nat.toDigits 10 (n + 1) from rfl, String.ofList_append, String.ofList_toList]
      rfl

/-- The characters of the standard library's text of a natural number. -/
theorem toList_toString (n : Nat) : (toString n).toList = natText n := by
  rw [natText_eq]
  exact String.toList_ofList

/-- A number has a digit. -/
theorem natText_ne_nil (n : Nat) : natText n ≠ [] := by
  rw [natText, ne_eq, List.map_eq_nil_iff]
  exact digits_ne_nil n

/-- Ten times a number ends in a zero. -/
theorem natText_mul_ten {n : Nat} (h : 0 < n) : natText (n * 10) = natText n ++ ['0'] := by
  rw [natText, digits, if_neg (by omega), Nat.mul_div_cancel n (by decide), Nat.mul_mod_left,
    List.map_append]
  rfl

/-- A number times a power of ten ends in zeros. -/
theorem natText_mul_pow {n : Nat} (h : 0 < n) (zeros : Nat) :
    natText (n * 10 ^ zeros) = natText n ++ List.replicate zeros '0' := by
  induction zeros with
  | zero => simp
  | succ zeros ih =>
      rw [Nat.pow_succ, ← Nat.mul_assoc, natText_mul_ten (Nat.mul_pos h (Nat.pow_pos (by decide))),
        ih, List.append_assoc, List.replicate_succ']

/-- `IsPositional d text` says that the text is a decimal in positional notation: an integral one
as an integer, any other with a point before as many of its digits as are due, or with zeros between
the point and all of them. -/
inductive IsPositional : Scaled → String → Prop where
  | zero (exponent : Int) : IsPositional ⟨0, exponent⟩ "0"
  | integral {n : Nat} (zeros : Nat) :
      0 < n → IsPositional ⟨n, zeros⟩ (toString (n * 10 ^ zeros))
  | mixed {n : Nat} {whole fraction : String} :
      toString n = whole ++ fraction → whole ≠ "" → fraction ≠ "" →
      IsPositional ⟨n, -fraction.length⟩ (whole ++ "." ++ fraction)
  | below {n : Nat} (zeros : Nat) :
      0 < n → IsPositional ⟨n, -(zeros + (toString n).length)⟩
        ("0." ++ String.ofList (List.replicate zeros '0') ++ toString n)

/-- `IsPlain x text` says that the text is the double in plain notation. -/
inductive IsPlain (x : Float) : String → Prop where
  | notANumber : x.isNaN → IsPlain x "NaN"
  | infinite : ¬ x.isNaN → x.isInf → IsPlain x ((if isNegative x then "-" else "") ++ "inf")
  | finite {text : String} : ¬ x.isNaN → ¬ x.isInf → IsPositional (shortest x) text →
      IsPlain x ((if isNegative x then "-" else "") ++ text)

/-- The characters of a decimal in plain notation. -/
def positionalChars (d : Scaled) : List Char :=
  if d.coefficient = 0 then ['0'] else Layout.plain.scaledText d

/-- The characters of a decimal other than zero come from its digits and the place of its point. -/
theorem positionalChars_of_pos {d : Scaled} (h : 0 < d.coefficient) :
    positionalChars d = positionalText false (natText d.coefficient)
      (d.exponent + (natText d.coefficient).length) := by
  rw [positionalChars, if_neg (Nat.ne_of_gt h), Layout.scaledText]
  simp [Layout.plain]

/-- An integral decimal is laid out as an integer. -/
theorem positionalChars_integral {n : Nat} (zeros : Nat) (h : 0 < n) :
    positionalChars ⟨n, zeros⟩ = (toString (n * 10 ^ zeros)).toList := by
  have hdigits := List.length_pos_iff.2 (natText_ne_nil n)
  rw [toList_toString, natText_mul_pow h, positionalChars_of_pos h, positionalText,
    if_neg (by dsimp only; omega), if_pos (by dsimp only; omega)]
  have hplaces : ((zeros : Int) + (natText n).length).toNat - (natText n).length = zeros := by omega
  simp [hplaces]

/-- A decimal with digits on both sides of its point. -/
theorem positionalChars_mixed {n : Nat} {whole fraction : String}
    (hdigits : toString n = whole ++ fraction) (hwhole : whole ≠ "") (hfraction : fraction ≠ "") :
    positionalChars ⟨n, -fraction.length⟩ = (whole ++ "." ++ fraction).toList := by
  have hchars : natText n = whole.toList ++ fraction.toList := by
    rw [← toList_toString, hdigits, String.toList_append]
  have hbefore : 0 < whole.toList.length :=
    List.length_pos_iff.2 (mt String.toList_eq_nil_iff.1 hwhole)
  have hbehind : 0 < fraction.toList.length :=
    List.length_pos_iff.2 (mt String.toList_eq_nil_iff.1 hfraction)
  have hpos : 0 < n := by
    refine Nat.pos_of_ne_zero fun hzero ↦ ?_
    have hlength : 1 = (whole.toList ++ fraction.toList).length := by
      rw [← hchars, hzero, natText, digits]
      rfl
    rw [List.length_append] at hlength
    omega
  have hplace : -(fraction.length : Int) + (natText n).length = whole.toList.length := by
    rw [hchars, List.length_append, ← String.length_toList]
    omega
  rw [positionalChars_of_pos hpos]
  dsimp only
  rw [hplace, positionalText, if_neg (by omega), Int.toNat_natCast, hchars,
    if_neg (by rw [List.length_append]; omega), List.take_left, List.drop_left]
  simp [String.toList_append]

/-- A decimal with all its digits behind the point. -/
theorem positionalChars_below {n : Nat} (zeros : Nat) (h : 0 < n) :
    positionalChars ⟨n, -(zeros + (toString n).length)⟩ =
      ("0." ++ String.ofList (List.replicate zeros '0') ++ toString n).toList := by
  have hplace : -((zeros : Int) + (toString n).length) + (natText n).length = -zeros := by
    rw [← toList_toString, String.length_toList]
    omega
  rw [positionalChars_of_pos h]
  dsimp only
  rw [hplace, positionalText, if_pos (by omega), Int.neg_neg, Int.toNat_natCast]
  simp [String.toList_append, natText_eq]

/-- A point among the digits of a number parts them. -/
theorem exists_digits_parted {n places : Nat} (hsome : 0 < places)
    (hrest : places < (natText n).length) :
    ∃ whole fraction : String, toString n = whole ++ fraction ∧ whole ≠ "" ∧ fraction ≠ "" ∧
      fraction.length = places := by
  have hfraction : ((natText n).drop ((natText n).length - places)).length = places := by
    rw [List.length_drop]
    omega
  have hwhole : 0 < ((natText n).take ((natText n).length - places)).length := by
    rw [List.length_take]
    omega
  refine ⟨.ofList ((natText n).take ((natText n).length - places)),
    .ofList ((natText n).drop ((natText n).length - places)), ?_, ?_, ?_, ?_⟩
  · rw [← String.ofList_append, List.take_append_drop, ← toList_toString, String.ofList_toList]
  · intro hempty
    rw [String.ofList_eq_empty_iff] at hempty
    rw [hempty] at hwhole
    exact Nat.lt_irrefl 0 hwhole
  · intro hempty
    rw [String.ofList_eq_empty_iff] at hempty
    rw [hempty] at hfraction
    exact Nat.ne_of_lt hsome hfraction
  · rw [String.length_ofList, hfraction]

/-- A decimal has one text in positional notation. -/
theorem positionalChars_eq_iff {d : Scaled} {text : String} :
    positionalChars d = text.toList ↔ IsPositional d text := by
  constructor
  · intro htext
    obtain ⟨n, exponent⟩ := d
    rcases Nat.eq_zero_or_pos n with rfl | hpos
    · obtain rfl : "0" = text := String.toList_inj.1 htext
      exact .zero exponent
    suffices hfound : ∃ found, IsPositional ⟨n, exponent⟩ found ∧
        positionalChars ⟨n, exponent⟩ = found.toList by
      obtain ⟨found, hfound, hchars⟩ := hfound
      rwa [String.toList_inj.1 (hchars.symm.trans htext)] at hfound
    -- The point stands behind the digits, among them, or before them.
    by_cases hbehind : 0 ≤ exponent
    · obtain ⟨zeros, rfl⟩ := Int.eq_ofNat_of_zero_le hbehind
      exact ⟨_, .integral zeros hpos, positionalChars_integral zeros hpos⟩
    by_cases hamong : -exponent < (natText n).length
    · obtain ⟨whole, fraction, hdigits, hwhole, hfraction, hplaces⟩ :=
        exists_digits_parted (show 0 < (-exponent).toNat by omega)
          (show (-exponent).toNat < (natText n).length by omega)
      obtain rfl : exponent = -fraction.length := by omega
      exact ⟨_, .mixed hdigits hwhole hfraction, positionalChars_mixed hdigits hwhole hfraction⟩
    · obtain ⟨zeros, hzeros⟩ := Int.eq_ofNat_of_zero_le
        (show 0 ≤ -exponent - (natText n).length by omega)
      obtain rfl : exponent = -(zeros + (toString n).length) := by
        rw [← String.length_toList, toList_toString]
        omega
      exact ⟨_, .below zeros hpos, positionalChars_below zeros hpos⟩
  · intro hpositional
    cases hpositional with
    | zero => rfl
    | integral zeros hpos => exact positionalChars_integral zeros hpos
    | mixed hdigits hwhole hfraction => exact positionalChars_mixed hdigits hwhole hfraction
    | below zeros hpos => exact positionalChars_below zeros hpos

/-- A double has one text in plain notation. -/
theorem plainText_eq_iff {x : Float} {text : String} :
    String.ofList (plainText x) = text ↔ IsPlain x text := by
  have hfinite : Layout.plain.text x =
      (if isNegative x then "-" else "").toList ++ positionalChars (shortest x) := by
    unfold Layout.text
    split <;> rfl
  constructor
  · rintro rfl
    unfold plainText
    split
    · rename_i hnan
      exact .notANumber hnan
    rename_i hnan
    split
    · rename_i hinf
      have hplain := IsPlain.infinite hnan hinf
      split
      · rename_i hnegative
        rwa [if_pos hnegative] at hplain
      · rename_i hpositive
        rwa [if_neg hpositive] at hplain
    · rename_i hinf
      rw [hfinite, String.ofList_append, String.ofList_toList]
      exact .finite hnan hinf (positionalChars_eq_iff.1 String.toList_ofList.symm)
  · intro hplain
    unfold plainText
    cases hplain with
    | notANumber hnan => rw [if_pos hnan]; rfl
    | infinite hnan hinf =>
        rw [if_neg hnan, if_pos hinf]
        split <;> rfl
    | finite hnan hinf hpositional =>
        rw [if_neg hnan, if_neg hinf, hfinite, positionalChars_eq_iff.2 hpositional,
          String.ofList_append, String.ofList_toList, String.ofList_toList]

end FunctionBindings.Decimal
