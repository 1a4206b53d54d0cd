import FunctionBindings.Text.Literal
import Mathlib.Algebra.Ring.Nat

/-!
# Tokens of source text

What a compiler sees of a module: words, marks and string literals. A scanner goes through the text
character by character (`step`) and refuses all that the modules here have no use for, such as
numerals, characters in single quotes, block comments, and literals with a prefix or a suffix.
Inside a string literal it decodes all escapes of the language: those of one letter, of a byte below
128 and of a code point, and the backslash at the end of a line, which drops the blanks that follow.
A bare carriage return is an error. The literal of a text is one token, which decodes to the text:
`run_literal`.
-/

namespace FunctionBindings.Source

/-- A token of source text. -/
inductive Token where
  /-- A keyword or an identifier. -/
  | word (text : String)
  /-- A character of punctuation. -/
  | mark (c : Char)
  /-- A string literal, decoded. -/
  | literal (text : String)
  deriving DecidableEq, Repr

/-- Where a scanner stands in a text. A literal is carried along as far as it is decoded. -/
inductive Mode where
  /-- Between tokens. -/
  | code
  /-- Behind a slash. -/
  | slash
  /-- In a comment, which ends with the line. -/
  | comment
  | word (start : List Char)
  | literal (content : List Char)
  /-- Behind a backslash. -/
  | escape (content : List Char)
  /-- At the first digit of a byte. -/
  | highDigit (content : List Char)
  /-- At the second digit of a byte. -/
  | lowDigit (content : List Char) (high : Nat)
  /-- In front of the brace that opens a code point. -/
  | openBrace (content : List Char)
  /-- In a code point, behind some of its digits. -/
  | codePoint (content : List Char) (count value : Nat)
  /-- In the blanks that a backslash at the end of a line drops. -/
  | gap (content : List Char)
  /-- Right behind a literal. -/
  | closed
  deriving DecidableEq, Repr

/-- True of a character that separates tokens. -/
def isSpace (c : Char) : Bool :=
  c == ' ' || c == '\n' || c == '\t' || c == '\r'

/-- True of a character that a word may begin with. -/
def isWordStart (c : Char) : Bool := c.isAlpha || c == '_'

/-- True of a character that a word may go on with. -/
def isWordChar (c : Char) : Bool := c.isAlphanum || c == '_'

/-- The punctuation characters. -/
def marks : List Char :=
  ['\x7b', '\x7d', '(', ')', '[', ']', '<', '>', ',', ';', ':', '.', '&', '!', '-', '=']

/-- What an escape of one letter stands for. -/
def escaped? (c : Char) : Option Char :=
  if c = '"' then some '"'
  else if c = '\'' then some '\''
  else if c = '\\' then some '\\'
  else if c = 'n' then some '\n'
  else if c = 'r' then some '\r'
  else if c = 't' then some '\t'
  else if c = '0' then some '\x00'
  else none

/-- The next character between tokens. -/
def codeStep (c : Char) : Option (List Token × Mode) :=
  if isSpace c then some ([], .code)
  else if c = '"' then some ([], .literal [])
  else if c = '/' then some ([], .slash)
  else if isWordStart c then some ([], .word [c])
  else if marks.contains c then some ([.mark c], .code)
  else none

/-- The next character of a literal. -/
def literalStep (content : List Char) (c : Char) : Option (List Token × Mode) :=
  if c = '"' then some ([.literal (String.ofList content)], .closed)
  else if c = '\\' then some ([], .escape content)
  else if c = '\r' then none
  else some ([], .literal (content ++ [c]))

/-- The next character: the tokens that it completes, and where it leads. -/
def step : Mode → Char → Option (List Token × Mode)
  | .code, c => codeStep c
  | .slash, c => if c = '/' then some ([], .comment) else none
  | .comment, c => some ([], if c = '\n' then .code else .comment)
  | .word start, c =>
      if isWordChar c then some ([], .word (start ++ [c]))
      else if c = '"' ∨ c = '\'' ∨ c = '#' then none
      else (codeStep c).map fun (tokens, mode) ↦ (.word (String.ofList start) :: tokens, mode)
  | .literal content, c => literalStep content c
  | .escape content, c =>
      if c = 'x' then some ([], .highDigit content)
      else if c = 'u' then some ([], .openBrace content)
      else if c = '\n' then some ([], .gap content)
      else (escaped? c).map fun d ↦ ([], .literal (content ++ [d]))
  | .highDigit content, c =>
      (Text.hexValue? c).bind fun d ↦ if d < 8 then some ([], .lowDigit content d) else none
  | .lowDigit content high, c =>
      (Text.hexValue? c).map fun d ↦ ([], .literal (content ++ [Char.ofNat (16 * high + d)]))
  | .openBrace content, c => if c = '\x7b' then some ([], .codePoint content 0 0) else none
  | .codePoint content count value, c =>
      if c = '\x7d' then
        if 0 < count ∧ value.isValidChar then
          some ([], .literal (content ++ [Char.ofNat value]))
        else none
      else if c = '_' then if 0 < count then some ([], .codePoint content count value) else none
      else if count < 6 then
        (Text.hexValue? c).map fun d ↦ ([], .codePoint content (count + 1) (16 * value + d))
      else none
  | .gap content, c => if isSpace c then some ([], .gap content) else literalStep content c
  | .closed, c => if isWordChar c then none else codeStep c

/-- The tokens that a text completes, and where its last character leads. -/
def run : Mode → List Char → Option (List Token × Mode)
  | mode, [] => some ([], mode)
  | mode, c :: cs =>
      (step mode c).bind fun (first, next) ↦
        (run next cs).map fun (later, last) ↦ (first ++ later, last)

/-- What the end of the text completes; it must not stand inside a literal. -/
def Mode.atEnd : Mode → Option (List Token)
  | .code | .comment | .closed => some []
  | .word start => some [.word (String.ofList start)]
  | _ => none

/-- The tokens of a text. -/
def tokens? (text : String) : Option (List Token) :=
  (run .code text.toList).bind fun (tokens, mode) ↦ mode.atEnd.map (tokens ++ ·)

/-- The next character, then the rest. -/
theorem run_cons {mode next last : Mode} {c : Char} {cs : List Char} {first later : List Token}
    (hstep : step mode c = some (first, next)) (hrest : run next cs = some (later, last)) :
    run mode (c :: cs) = some (first ++ later, last) := by
  simp only [run, hstep, hrest, Option.bind_some, Option.map_some]

/-- A text in two parts is scanned part by part. -/
theorem run_append {mode next last : Mode} {cs ds : List Char} {first later : List Token}
    (hfirst : run mode cs = some (first, next)) (hlater : run next ds = some (later, last)) :
    run mode (cs ++ ds) = some (first ++ later, last) := by
  induction cs generalizing mode first with
  | nil =>
      simp only [run, Option.some.injEq, Prod.mk.injEq] at hfirst
      obtain ⟨rfl, rfl⟩ := hfirst
      exact hlater
  | cons c cs ih =>
      simp only [run, Option.bind_eq_some_iff, Option.map_eq_some_iff, Prod.exists,
        Prod.mk.injEq] at hfirst
      obtain ⟨tokens, between, hstep, rest, _, hrest, rfl, rfl⟩ := hfirst
      rw [List.append_assoc]
      exact run_cons hstep (ih hrest)

/-- A text of one character is one step. -/
theorem run_singleton (mode : Mode) (c : Char) : run mode [c] = step mode c := by
  cases h : step mode c <;> simp [run, h]

/-- A text that ends between tokens has the tokens that it completes. -/
theorem tokens?_of_run {text : String} {tokens : List Token}
    (h : run .code text.toList = some (tokens, .code)) : tokens? text = some tokens := by
  simp [tokens?, h, Mode.atEnd]

section Literal

open Text (hexDigit hexDigits literalChar literalChars)

/-- A number below a power of sixteen has no more digits than the power. -/
theorem length_hexDigits_le {n k : Nat} (h : n < 16 ^ (k + 1)) :
    (hexDigits n).length ≤ k + 1 := by
  induction k generalizing n with
  | zero =>
      have hsmall : n < 16 := by simpa using h
      rw [hexDigits, if_pos hsmall]
      simp
  | succ k ih =>
      rw [hexDigits]
      split
      · simp
      · have hdiv : n / 16 < 16 ^ (k + 1) := by
          rw [Nat.div_lt_iff_lt_mul (by decide), ← Nat.pow_succ]
          exact h
        simpa using ih hdiv

/-- A written digit goes on with a code point that has room for it. -/
theorem step_hexDigit (content : List Char) {count value digit : Nat} (hcount : count < 6)
    (hdigit : digit < 16) :
    step (.codePoint content count value) (hexDigit digit) =
      some ([], .codePoint content (count + 1) (16 * value + digit)) := by
  have hplain : ∀ d < 16, hexDigit d ≠ '\x7d' ∧ hexDigit d ≠ '_' := by decide
  obtain ⟨hbrace, hline⟩ := hplain digit hdigit
  simp only [step, hbrace, hline, hcount, if_true, if_false, Text.hexValue?_hexDigit digit hdigit,
    Option.map_some]

/-- The digits of a number make its code point. -/
theorem run_hexDigits (content : List Char) {n : Nat} (h : (hexDigits n).length ≤ 6) :
    run (.codePoint content 0 0) (hexDigits n) =
      some ([], .codePoint content (hexDigits n).length n) := by
  fun_induction hexDigits n with
  | case1 n hsmall =>
      rw [run_singleton, step_hexDigit content (by decide) hsmall]
      simp
  | case2 n hlarge ih =>
      rw [List.length_append, List.length_singleton] at h ⊢
      have hlast : step (.codePoint content (hexDigits (n / 16)).length (n / 16))
          (hexDigit (n % 16)) =
          some ([], .codePoint content ((hexDigits (n / 16)).length + 1) n) := by
        rw [step_hexDigit content (by omega) (Nat.mod_lt n (by decide)), Nat.div_add_mod]
      exact run_append (ih (by omega)) ((run_singleton _ _).trans hlast)

/-- The code point of a character has six digits at most. -/
theorem length_hexDigits_toNat_le (c : Char) : (hexDigits c.toNat).length ≤ 6 := by
  have hvalid : c.toNat < 0x110000 := by
    obtain hlow | ⟨-, hhigh⟩ := c.valid
    · exact Nat.lt_trans hlow (by decide)
    · exact hhigh
  exact length_hexDigits_le (Nat.lt_trans hvalid (by decide))

/-- What is written for a character inside a literal decodes to the character. -/
theorem run_literalChar (content : List Char) (c : Char) :
    run (.literal content) (literalChar c) = some ([], .literal (content ++ [c])) := by
  unfold literalChar
  split_ifs with htab hline hreturn hzero hquote hslash hplain
  · subst htab
    rfl
  · subst hline
    rfl
  · subst hreturn
    rfl
  · subst hzero
    rfl
  · subst hquote
    rfl
  · subst hslash
    rfl
  · rw [run_singleton]
    simp only [step, literalStep, hquote, hslash, hreturn, if_false]
  · have hopen : run (.literal content) ['\\', 'u', '\x7b'] =
        some ([], .codePoint content 0 0) := rfl
    have hdigits := run_hexDigits content (length_hexDigits_toNat_le c)
    have hclose : run (.codePoint content (hexDigits c.toNat).length c.toNat) ['\x7d'] =
        some ([], .literal (content ++ [c])) := by
      have hsome : 0 < (hexDigits c.toNat).length := by
        rw [hexDigits]
        split <;> simp
      have hvalid : c.toNat.isValidChar := c.valid
      simp only [run_singleton, step, hsome, hvalid, and_self, if_true, Char.ofNat_toNat]
    exact run_append (run_append hopen hdigits) hclose

/-- What is written for a text inside a literal decodes to the text. -/
theorem run_literalContent (content cs : List Char) :
    run (.literal content) (cs.flatMap literalChar) = some ([], .literal (content ++ cs)) := by
  induction cs generalizing content with
  | nil => simp [run]
  | cons c cs ih =>
      have hrest := ih (content ++ [c])
      rw [List.append_assoc] at hrest
      exact run_append (run_literalChar content c) hrest

/-- The literal of a text is one token, which decodes to the text. -/
theorem run_literal (text : String) :
    run .code (Text.literal text).toList = some ([.literal text], .closed) := by
  have hopen : step .code '"' = some ([], .literal []) := rfl
  have hcontent := run_literalContent [] text.toList
  have hclose : run (.literal text.toList) ['"'] = some ([.literal text], .closed) := by
    rw [run_singleton]
    simp [step, literalStep]
  rw [Text.literal, String.toList_ofList, literalChars]
  exact run_cons hopen (run_append hcontent hclose)

end Literal

end FunctionBindings.Source
