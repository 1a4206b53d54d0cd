import FunctionBindings.Proofs.Json.CutText

/-!
# Texts that begin with a quote

A text that begins with a double quote is the JSON text of a string or of nothing at all: it reads
just if the string that is opened there is read with nothing but blanks behind it
(`ofText_quote_eq_ok_iff`). What stands between two quotes is read as it is if all its characters
stand for themselves, and is longer than the string that it is read as otherwise
(`exists_written_of_readQuoted`).
-/

namespace FunctionBindings.Json

/-- True of a character that stands for itself in a string. -/
def IsPlain (c : Char) : Prop := c ≠ '"' ∧ c ≠ '\\' ∧ ¬ c.toNat < 0x20

/-- Characters that stand for themselves are read up to the closing quote. -/
theorem readQuoted_of_isPlain {cs : List Char} (h : ∀ c ∈ cs, IsPlain c) (rest : List Char) :
    readQuoted (cs ++ '"' :: rest) = .ok (cs, rest) := by
  induction cs with
  | nil => simp [readQuoted]
  | cons c cs ih =>
      obtain ⟨⟨hquote, hslash, hcontrol⟩, hcs⟩ := List.forall_mem_cons.1 h
      rw [List.cons_append, readQuoted_plain _ hquote hslash hcontrol, ih hcs]
      rfl

/-- True of characters that are written with more characters than they are, or as they are. -/
def IsWrittenAs (cs written : List Char) : Prop :=
  cs.length < written.length ∨ written = cs ∧ ∀ c ∈ cs, IsPlain c

/-- No characters are written with fewer than they are. -/
theorem IsWrittenAs.length_le {cs written : List Char} (h : IsWrittenAs cs written) :
    cs.length ≤ written.length := by
  rcases h with hless | ⟨rfl, -⟩
  · exact Nat.le_of_lt hless
  · exact Nat.le_refl _

/-- Characters that are written as they are stand for themselves. -/
theorem IsWrittenAs.isPlain {cs : List Char} (h : IsWrittenAs cs cs) : ∀ c ∈ cs, IsPlain c := by
  rcases h with hless | ⟨-, hplain⟩
  · exact absurd hless (Nat.lt_irrefl _)
  · exact hplain

/-- A character that is escaped is written with more characters than it is. -/
theorem exists_written_of_escape {text cs rest : List Char} {c : Char} (escape : List Char)
    (hescape : 2 ≤ escape.length)
    (ih : ∀ {cs}, readQuoted text = .ok (cs, rest) →
      ∃ written, text = written ++ '"' :: rest ∧ IsWrittenAs cs written)
    (h : pushChar c (readQuoted text) = .ok (cs, rest)) :
    ∃ written, escape ++ text = written ++ '"' :: rest ∧ IsWrittenAs cs written := by
  obtain ⟨tail, htail, rfl⟩ := pushChar_eq_ok h
  obtain ⟨written, rfl, hwritten⟩ := ih htail
  have hlength := hwritten.length_le
  refine ⟨escape ++ written, by simp, .inl ?_⟩
  simp only [List.length_cons, List.length_append]
  omega

/-- What was read is written in front of the closing quote. -/
theorem exists_written_of_readQuoted {text cs rest : List Char}
    (h : readQuoted text = .ok (cs, rest)) :
    ∃ written, text = written ++ '"' :: rest ∧ IsWrittenAs cs written := by
  fun_induction readQuoted text generalizing cs with
  | case5 a b c d a' b' c' d' text unit hunit htrailing hleading next hnext hpair ih =>
      exact exists_written_of_escape ['\\', 'u', a, b, c, d, '\\', 'u', a', b', c', d'] (by simp)
        ih h
  | case7 a b c d a' b' c' d' text unit hunit htrailing hleading ih =>
      exact exists_written_of_escape ['\\', 'u', a, b, c, d] (by simp) ih h
  | case11 a b c d text hsingle unit hunit htrailing hleading ih =>
      exact exists_written_of_escape ['\\', 'u', a, b, c, d] (by simp) ih h
  | case13 c text hpair hunit hshort value hletter ih =>
      exact exists_written_of_escape ['\\', c] (by simp) ih h
  | case16 text =>
      cases h
      exact ⟨[], rfl, .inr ⟨rfl, List.forall_mem_nil _⟩⟩
  | case18 c text hpair hunit hshort hletter hcut hquote hcontrol ih =>
      -- A backslash would begin an escape, or be the end of the text.
      have hslash : c ≠ '\\' := by
        intro hslash
        cases text with
        | nil => exact hcut hslash rfl
        | cons d text => exact hletter d text hslash rfl
      obtain ⟨tail, htail, rfl⟩ := pushChar_eq_ok h
      obtain ⟨written, rfl, hwritten⟩ := ih htail
      refine ⟨c :: written, rfl, ?_⟩
      rcases hwritten with hless | ⟨rfl, hplain⟩
      · exact .inl (Nat.succ_lt_succ hless)
      · exact .inr ⟨rfl, List.forall_mem_cons.2 ⟨⟨hquote, hslash, hcontrol⟩, hplain⟩⟩
  | _ => cases h

/-- Blanks have no tokens. -/
theorem tokens_eq_nil_iff {text : List Char} : tokens text = [] ↔ ∀ c ∈ text, isSpace c := by
  refine ⟨isSpace_of_tokens_eq_nil, fun h ↦ ?_⟩
  induction text with
  | nil => rw [tokens]
  | cons c text ih =>
      obtain ⟨hspace, htext⟩ := List.forall_mem_cons.1 h
      rw [tokens, if_pos hspace, ih htext]

/-- The document of a text that begins with a quote and a string that comes to its end. -/
theorem document_ofText_quote {text : String} {inside after : List Char} {key : Key}
    (h : text.toList = '"' :: inside) (hskip : skipQuoted inside = .ok after)
    (hkey : Token.ofQuoted inside = .text key) :
    Document.ofText text = ⟨key.doc, !(tokens after).isEmpty⟩ := by
  rw [Document.ofText, Document.ofTokens, h, tokens_quote_of_skipQuoted hskip, hkey,
    List.foldl_cons, State.step, State.ofValue, State.put, foldl_step_complete]

/-- A string that breaks off is the only token. -/
theorem tokens_quote_of_error {inside : List Char} {skipped : TextFault}
    (h : skipQuoted inside = .error skipped) :
    ∃ wanted, tokens ('"' :: inside) = [.cutText wanted skipped] := by
  have hspace : isSpace '"' = false := rfl
  have hpunct : punctuation? '"' = none := rfl
  rw [tokens]
  simp only [hspace, hpunct, if_true, Bool.false_eq_true, if_false]
  split
  · rename_i hok
    rw [h] at hok
    cases hok
  · rename_i found herror
    rw [h] at herror
    cases herror
    unfold Token.ofCutQuoted
    split <;> exact ⟨_, rfl⟩

/-- The document of a text that begins with a quote and a string that breaks off. -/
theorem document_ofText_quote_of_error {text : String} {inside : List Char} {skipped : TextFault}
    (h : text.toList = '"' :: inside) (hskip : skipQuoted inside = .error skipped) :
    ∃ wanted, Document.ofText text = ⟨.broken wanted skipped, false⟩ := by
  obtain ⟨wanted, htokens⟩ := tokens_quote_of_error hskip
  refine ⟨wanted, ?_⟩
  rw [Document.ofText, Document.ofTokens, h, htokens]
  rfl

/-- A text that begins with a quote reads as a string with nothing but blanks behind it, or not at
all. -/
theorem ofText_quote_eq_ok_iff {text : String} {inside : List Char} {value : Json}
    (h : text.toList = '"' :: inside) :
    ofText text = .ok value ↔
      ∃ cs after, readQuoted inside = .ok (cs, after) ∧ (∀ c ∈ after, isSpace c) ∧
        value = .string (String.ofList cs) := by
  rw [ofText, Document.readWith_eq_ok_iff]
  cases hread : readQuoted inside with
  | ok found =>
      obtain ⟨cs, after⟩ := found
      have hkey : Token.ofQuoted inside = .text (.named (String.ofList cs)) := by
        rw [Token.ofQuoted, hread]
      rw [document_ofText_quote h (skipQuoted_of_readQuoted hread) hkey]
      constructor
      · rintro ⟨hvalue, htrailing⟩
        cases hvalue
        have hnone : tokens after = [] := by simpa using htrailing
        exact ⟨cs, after, rfl, tokens_eq_nil_iff.1 hnone, rfl⟩
      · rintro ⟨cs, after, hfound, hblank, rfl⟩
        cases hfound
        rw [tokens_eq_nil_iff.2 hblank]
        exact ⟨rfl, rfl⟩
  | error fault =>
      constructor
      · rintro ⟨hvalue, -⟩
        exfalso
        cases hskip : skipQuoted inside with
        | ok after =>
            have hkey : Token.ofQuoted inside = .text (.flawed fault) := by
              rw [Token.ofQuoted, hread]
            rw [document_ofText_quote h hskip hkey] at hvalue
            cases hvalue
        | error skipped =>
            obtain ⟨wanted, hdocument⟩ := document_ofText_quote_of_error h hskip
            rw [hdocument] at hvalue
            cases hvalue
      · rintro ⟨cs, after, hfound, -⟩
        cases hfound

/-- A text that begins with a quote has no value but a string. -/
theorem isString_of_ofText_quote {text : String} {inside : List Char} {value : Json}
    (h : text.toList = '"' :: inside) (hvalue : ofText text = .ok value) :
    ∃ content, value = .string content := by
  obtain ⟨cs, after, -, -, rfl⟩ := (ofText_quote_eq_ok_iff h).1 hvalue
  exact ⟨_, rfl⟩

/-- A text in quotes reads as the string of what stands between them, if the last quote is the one
that closes it. -/
theorem ofText_quoted_eq_ok_iff {text : String} {inner : List Char} {value : Json}
    (h : text.toList = '"' :: (inner ++ ['"'])) :
    ofText text = .ok value ↔
      ∃ cs, readQuoted (inner ++ ['"']) = .ok (cs, []) ∧ IsWrittenAs cs inner ∧
        value = .string (String.ofList cs) := by
  rw [ofText_quote_eq_ok_iff h]
  constructor
  · rintro ⟨cs, after, hread, hblank, rfl⟩
    obtain ⟨written, hwritten, hlength⟩ := exists_written_of_readQuoted hread
    -- A quote is no blank, so the last one is not behind the string.
    have hafter : after = [] := by
      cases hlast : after.getLast? with
      | none => exact List.getLast?_eq_none_iff.1 hlast
      | some last =>
          have hquote := congrArg List.getLast? hwritten
          obtain rfl : '"' = last := by
            simpa [List.getLast?_append, List.getLast?_cons, hlast] using hquote
          exact absurd (hblank '"' (List.mem_of_getLast? hlast)) (by decide)
    subst hafter
    obtain rfl := List.append_cancel_right hwritten
    exact ⟨cs, hread, hlength, rfl⟩
  · rintro ⟨cs, hread, -, rfl⟩
    exact ⟨cs, [], hread, List.forall_mem_nil _, rfl⟩

end FunctionBindings.Json
