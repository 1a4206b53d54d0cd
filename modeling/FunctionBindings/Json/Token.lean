import FunctionBindings.Json.Doc.Basic
import FunctionBindings.Json.Numeral
import FunctionBindings.Json.Quoted

/-!
# Tokens of JSON text

A text is cut into punctuation, strings, numbers and words; blanks between them are dropped. The
first token that breaks off, or the first character that begins no token, is the last token of the
text.
-/

namespace FunctionBindings.Json

/-- A token of JSON text. -/
inductive Token where
  | openArray
  | closeArray
  | openObject
  | closeObject
  | colon
  | comma
  /-- A complete string. -/
  | text (key : Key)
  /-- A complete number or word, as its document. -/
  | scalar (doc : Doc)
  /-- A string that breaks off: the faults of reading and of skipping it. -/
  | cutText (wanted skipped : TextFault)
  /-- A number or word that breaks off: the faults of reading and of skipping it. -/
  | cutScalar (wanted skipped : TextFault)
  /-- A character that begins no token. -/
  | other
  deriving Inhabited

/-- True of the characters that may stand between tokens. -/
def isSpace (c : Char) : Bool :=
  c == ' ' || c == '\n' || c == '\t' || c == '\r'

/-- The punctuation token of a character. -/
def punctuation? (c : Char) : Option Token :=
  if c = '[' then some .openArray
  else if c = ']' then some .closeArray
  else if c = '\x7b' then some .openObject
  else if c = '\x7d' then some .closeObject
  else if c = ':' then some .colon
  else if c = ',' then some .comma
  else none

/-- The word that begins with a character, without that character, and its document. -/
def word? (c : Char) : Option (List Char × Doc) :=
  if c = 'n' then some (['u', 'l', 'l'], .null)
  else if c = 't' then some (['r', 'u', 'e'], .bool true)
  else if c = 'f' then some (['a', 'l', 's', 'e'], .bool false)
  else none

/-- What follows a word at the front of a text. -/
def matchWord : List Char → List Char → Except TextFault (List Char)
  | [], rest => .ok rest
  | _ :: _, [] => .error .endInValue
  | w :: ws, c :: rest => if c = w then matchWord ws rest else .error .expectedIdent

/-- The token of a complete string: its text, or why it has none. -/
def Token.ofQuoted (inside : List Char) : Token :=
  match readQuoted inside with
  | .ok (cs, _) => .text (.named (String.ofList cs))
  | .error fault => .text (.flawed fault)

/-- The token of a string that breaks off. -/
def Token.ofCutQuoted (inside : List Char) (skipped : TextFault) : Token :=
  match readQuoted inside with
  | .ok _ => .cutText skipped skipped
  | .error wanted => .cutText wanted skipped

/-- The token of a complete numeral. -/
def Token.ofNumeral (numeral : Numeral) : Token :=
  match numeral.value? with
  | some value => .scalar (.number value)
  | none => .scalar .beyond

/-- The token of a numeral that breaks off. -/
def Token.ofCutNumeral (fault : NumeralFault) : Token :=
  .cutScalar (if fault.atEnd then .endInValue else .invalidNumber) .invalidNumber

/-- A string ends before the text that it stands in. -/
theorem length_lt_of_skipQuoted {inside rest : List Char} (h : skipQuoted inside = .ok rest) :
    rest.length < inside.length := by
  fun_induction skipQuoted inside <;> simp_all <;> omega

/-- Digits are taken from the front of a text. -/
theorem length_spanDigits (text : List Char) :
    (spanDigits text).1.length + (spanDigits text).2.length = text.length := by
  fun_induction spanDigits text <;> grind

/-- A word is as long as it is. -/
theorem length_le_of_matchWord {word text rest : List Char} (h : matchWord word text = .ok rest) :
    rest.length ≤ text.length := by
  fun_induction matchWord word text <;> grind

/-- The digits before the point take at least one character. -/
theorem length_lt_of_scanWhole {text rest : List Char} {ds : List Nat}
    (h : scanWhole text = .ok (ds, rest)) : rest.length < text.length := by
  have hl := length_spanDigits text
  unfold scanWhole at h
  split at h
  · simp at h
  · simp at h
  · rename_i ds' after hnil _ heq
    simp only [Except.ok.injEq, Prod.mk.injEq] at h
    obtain ⟨rfl, rfl⟩ := h
    have hpos : 0 < ds'.length := List.length_pos_iff.2 hnil
    rw [heq] at hl
    simp only at hl
    omega

/-- A fraction does not lengthen the text. -/
theorem length_le_of_scanFraction {text rest : List Char} {ds : Option (List Nat)}
    (h : scanFraction text = .ok (ds, rest)) : rest.length ≤ text.length := by
  unfold scanFraction at h
  split at h
  · rename_i tail
    have hl := length_spanDigits tail
    grind
  · grind

/-- An exponent does not lengthen the text. -/
theorem length_le_of_scanExponent {text rest : List Char} {e : Option (Bool × List Nat)}
    (h : scanExponent text = .ok (e, rest)) : rest.length ≤ text.length := by
  unfold scanExponent at h
  split at h
  · rename_i c tail
    have hl := length_spanDigits
    grind [scanExponentDigits]
  · grind

/-- A numeral without its sign takes at least one character. -/
theorem length_lt_of_scanUnsigned {negative : Bool} {text rest : List Char} {n : Numeral}
    (h : scanUnsigned negative text = .ok (n, rest)) : rest.length < text.length := by
  unfold scanUnsigned at h
  split at h
  · simp at h
  · rename_i hw
    split at h
    · simp at h
    · rename_i hf
      split at h
      · simp at h
      · rename_i he
        have hlw := length_lt_of_scanWhole hw
        have hlf := length_le_of_scanFraction hf
        have hle := length_le_of_scanExponent he
        simp only [Except.ok.injEq, Prod.mk.injEq] at h
        obtain ⟨-, rfl⟩ := h
        omega

/-- A numeral takes at least one character. -/
theorem length_lt_of_scanNumeral {text rest : List Char} {n : Numeral}
    (h : scanNumeral text = .ok (n, rest)) : rest.length < text.length := by
  unfold scanNumeral at h
  split at h
  · have hl := length_lt_of_scanUnsigned h
    simp only [List.length_cons]
    omega
  · exact length_lt_of_scanUnsigned h

/-- The tokens of a text. -/
def tokens (text : List Char) : List Token :=
  match text with
  | [] => []
  | c :: rest =>
      if isSpace c then tokens rest
      else match punctuation? c with
      | some token => token :: tokens rest
      | none =>
          if c = '"' then
            match _h : skipQuoted rest with
            | .ok after => Token.ofQuoted rest :: tokens after
            | .error skipped => [Token.ofCutQuoted rest skipped]
          else match word? c with
          | some (word, doc) =>
              match _h : matchWord word rest with
              | .ok after => .scalar doc :: tokens after
              | .error fault => [.cutScalar fault fault]
          | none =>
              if c = '-' ∨ (Decimal.digitValue? c).isSome then
                match _h : scanNumeral (c :: rest) with
                | .ok (numeral, after) => Token.ofNumeral numeral :: tokens after
                | .error fault => [Token.ofCutNumeral fault]
              else [.other]
termination_by text.length
decreasing_by
  · simp
  · simp
  · have := length_lt_of_skipQuoted _h
    simp
    omega
  · have := length_le_of_matchWord _h
    simp
    omega
  · have := length_lt_of_scanNumeral _h
    simpa using this

end FunctionBindings.Json
