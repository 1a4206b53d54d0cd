import FunctionBindings.Json.Printer
import FunctionBindings.Json.Quoted

/-!
# Escaping and reading back

A string is written with escapes for the quote, the backslash and the control characters. Reading
undoes this for every list of characters: `readQuoted_escape` says that the characters come back and
that reading stops at the closing quote, whatever the string holds and whatever follows it.
-/

namespace FunctionBindings.Json

/-- A control character is written with two hexadecimal digits behind two zeros. -/
theorem unitEscape?_control {n : Nat} (h : n < 0x20) :
    unitEscape? '0' '0' (Text.hexDigit (n / 16)) (Text.hexDigit (n % 16)) = some n := by
  have hzero : Text.hexValue? '0' = some 0 := by decide
  have hhigh := Text.hexValue?_hexDigit (n / 16) (by omega)
  have hlow := Text.hexValue?_hexDigit (n % 16) (by omega)
  have hsum : 16 * (n / 16) + n % 16 = n := by omega
  simp [unitEscape?, Text.ofHexDigits?, hzero, hhigh, hlow, hsum]

/-- A four-digit escape of a unit that is no surrogate is read as its character. -/
theorem readQuoted_unit {a b c d : Char} {unit : Nat} (rest : List Char)
    (h : unitEscape? a b c d = some unit) (htrailing : isTrailing unit = false)
    (hleading : isLeading unit = false) :
    readQuoted ('\\' :: 'u' :: a :: b :: c :: d :: rest) =
      pushChar (Char.ofNat unit) (readQuoted rest) := by
  -- The escape may be followed by another one, which reading takes into view.
  rw [readQuoted.eq_def]
  split <;> grind

/-- A four-digit escape below U+0020 is read as its character. -/
theorem readQuoted_control {a b c d : Char} {n : Nat} (rest : List Char)
    (h : unitEscape? a b c d = some n) (hn : n < 0x20) :
    readQuoted ('\\' :: 'u' :: a :: b :: c :: d :: rest) =
      pushChar (Char.ofNat n) (readQuoted rest) := by
  have hleading : isLeading n = false := by simp [isLeading]; omega
  have htrailing : isTrailing n = false := by simp [isTrailing]; omega
  exact readQuoted_unit rest h htrailing hleading

/-- A character that is written as it is, is read as it is. -/
theorem readQuoted_plain {c : Char} (rest : List Char) (hquote : c ≠ '"') (hslash : c ≠ '\\')
    (hcontrol : ¬ c.toNat < 0x20) :
    readQuoted (c :: rest) = pushChar c (readQuoted rest) := by
  rw [readQuoted.eq_def]
  split <;> grind

/-- The letter of a four-digit escape is no escape by itself. -/
theorem ne_u_of_letterEscape? {letter c : Char} (h : letterEscape? letter = some c) :
    letter ≠ 'u' := by
  rintro rfl
  cases h

/-- An escape of one letter is read as the character that it stands for. -/
theorem readQuoted_letter {letter c : Char} (rest : List Char)
    (h : letterEscape? letter = some c) :
    readQuoted ('\\' :: letter :: rest) = pushChar c (readQuoted rest) := by
  have hletter := ne_u_of_letterEscape? h
  rw [readQuoted.eq_def]
  split <;> grind

/-- A written character is read back in front of what follows. -/
theorem readQuoted_escapeChar (c : Char) (rest : List Char) :
    readQuoted (escapeChar c ++ rest) = pushChar c (readQuoted rest) := by
  unfold escapeChar
  -- Seven characters have a letter of their own.
  iterate 7
    split
    next h =>
      subst h
      exact readQuoted_letter rest rfl
  split
  · rename_i hcontrol
    have hread := readQuoted_control rest (unitEscape?_control hcontrol) hcontrol
    rwa [Char.ofNat_toNat] at hread
  · rename_i hquote hslash _ _ _ _ _ hcontrol
    exact readQuoted_plain rest hquote hslash hcontrol

/-- Written characters are read back up to the closing quote. -/
theorem readQuoted_escape (cs rest : List Char) :
    readQuoted (escape cs ++ '"' :: rest) = .ok (cs, rest) := by
  induction cs with
  | nil => simp [escape, readQuoted]
  | cons c cs ih =>
      have hcons : escape (c :: cs) ++ '"' :: rest =
          escapeChar c ++ (escape cs ++ '"' :: rest) := by
        simp [escape]
      rw [hcons, readQuoted_escapeChar, ih]
      rfl

/-- Skipping a written string stops at its closing quote. -/
theorem skipQuoted_escape (cs rest : List Char) :
    skipQuoted (escape cs ++ '"' :: rest) = .ok rest :=
  skipQuoted_of_readQuoted (readQuoted_escape cs rest)

end FunctionBindings.Json
