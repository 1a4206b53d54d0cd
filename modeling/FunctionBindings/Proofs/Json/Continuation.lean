import FunctionBindings.Proofs.Json.Tokens

/-!
# Texts that go on

What the tokens of a text become when more text follows. A numeral may go on behind the end of its
text, and a string or word that breaks off may be completed, so their tokens can change. After
punctuation nothing is pending: the tokens of a text that ends in punctuation stay, and those of
what follows come behind them. Main statement: `tokens_append`.
-/

namespace FunctionBindings.Json

/-- Digits that end before the end of their text are the same in a longer text. -/
theorem spanDigits_append_of_ne {text after : List Char} {ds : List Nat}
    (h : spanDigits text = (ds, after)) (hafter : after ≠ []) (more : List Char) :
    spanDigits (text ++ more) = (ds, after ++ more) := by
  induction text generalizing ds with
  | nil =>
      cases h
      exact absurd rfl hafter
  | cons c rest ih =>
      rw [List.cons_append, spanDigits]
      cases hdigit : Decimal.digitValue? c with
      | none =>
          simp only [spanDigits, hdigit, Prod.mk.injEq] at h
          obtain ⟨rfl, rfl⟩ := h
          rfl
      | some d =>
          simp only [spanDigits, hdigit, Prod.mk.injEq] at h
          obtain ⟨rfl, rfl⟩ := h
          rw [ih rfl]

/-- The digits before the point are the same in a longer text. -/
theorem scanWhole_append {text after : List Char} {ds : List Nat}
    (h : scanWhole text = .ok (ds, after)) (hafter : after ≠ []) (more : List Char) :
    scanWhole (text ++ more) = .ok (ds, after ++ more) := by
  unfold scanWhole at h ⊢
  split at h
  · cases h
  · cases h
  · rename_i hnil hzero hspan
    cases h
    rw [spanDigits_append_of_ne hspan hafter more]
    split <;> simp_all

/-- A fraction is the same in a longer text. -/
theorem scanFraction_append {text after : List Char} {ds : Option (List Nat)}
    (h : scanFraction text = .ok (ds, after)) (hafter : after ≠ []) (more : List Char) :
    scanFraction (text ++ more) = .ok (ds, after ++ more) := by
  unfold scanFraction at h
  split at h
  · split at h
    · cases h
    · rename_i hnil hspan
      cases h
      simp only [List.cons_append, scanFraction, spanDigits_append_of_ne hspan hafter more]
  · rename_i hpoint
    cases h
    cases text with
    | nil => exact absurd rfl hafter
    | cons c rest =>
        have hc : c ≠ '.' := by
          rintro rfl
          exact hpoint rest rfl
        simp [scanFraction, hc]

/-- The digits of an exponent are the same in a longer text. -/
theorem scanExponentDigits_append {negative : Bool} {text after : List Char}
    {exponent : Option (Bool × List Nat)}
    (h : scanExponentDigits negative text = .ok (exponent, after)) (hafter : after ≠ [])
    (more : List Char) :
    scanExponentDigits negative (text ++ more) = .ok (exponent, after ++ more) := by
  unfold scanExponentDigits at h
  split at h
  · cases h
  · rename_i hnil hspan
    cases h
    simp only [scanExponentDigits, spanDigits_append_of_ne hspan hafter more]

/-- An exponent is the same in a longer text. -/
theorem scanExponent_append {text after : List Char} {exponent : Option (Bool × List Nat)}
    (h : scanExponent text = .ok (exponent, after)) (hafter : after ≠ []) (more : List Char) :
    scanExponent (text ++ more) = .ok (exponent, after ++ more) := by
  cases text with
  | nil =>
      cases h
      exact absurd rfl hafter
  | cons c rest =>
      rw [List.cons_append]
      unfold scanExponent at h ⊢
      simp only at h ⊢
      split at h
      · rename_i hletter
        rw [if_pos hletter]
        split at h
        · exact scanExponentDigits_append h hafter more
        · exact scanExponentDigits_append h hafter more
        · rename_i hplus hminus
          -- Without a sign the next character is a digit, which stands in the shorter text.
          cases rest with
          | nil => cases h
          | cons d rest =>
              have hd : d ≠ '+' ∧ d ≠ '-' := by
                constructor
                · rintro rfl
                  exact hplus rest rfl
                · rintro rfl
                  exact hminus rest rfl
              simp only [List.cons_append]
              split
              · simp_all
              · simp_all
              · exact scanExponentDigits_append h hafter more
      · rename_i hletter
        rw [if_neg hletter]
        cases h
        rfl

/-- A numeral without its sign is the same in a longer text. -/
theorem scanUnsigned_append {negative : Bool} {text after : List Char} {numeral : Numeral}
    (h : scanUnsigned negative text = .ok (numeral, after)) (hafter : after ≠ [])
    (more : List Char) :
    scanUnsigned negative (text ++ more) = .ok (numeral, after ++ more) := by
  unfold scanUnsigned at h
  split at h
  · cases h
  · rename_i whole afterWhole hwhole
    split at h
    · cases h
    · rename_i fraction afterFraction hfraction
      split at h
      · cases h
      · rename_i exponent rest hexponent
        cases h
        -- Every part ends no later than the last one.
        have hpos := List.length_pos_iff.2 hafter
        have hle := length_le_of_scanExponent hexponent
        have hle' := length_le_of_scanFraction hfraction
        have hne : afterFraction ≠ [] := List.length_pos_iff.1 (by omega)
        have hne' : afterWhole ≠ [] := List.length_pos_iff.1 (by omega)
        simp only [scanUnsigned, scanWhole_append hwhole hne' more,
          scanFraction_append hfraction hne more, scanExponent_append hexponent hafter more]

/-- A numeral that ends before the end of its text is the same in a longer text. -/
theorem scanNumeral_append {text after : List Char} {numeral : Numeral}
    (h : scanNumeral text = .ok (numeral, after)) (hafter : after ≠ []) (more : List Char) :
    scanNumeral (text ++ more) = .ok (numeral, after ++ more) := by
  cases text with
  | nil => cases h
  | cons c rest =>
      by_cases hsign : c = '-'
      · subst hsign
        exact scanUnsigned_append h hafter more
      · have hunsigned : ∀ tail, scanNumeral (c :: tail) = scanUnsigned false (c :: tail) := by
          intro tail
          unfold scanNumeral
          split
          · simp_all
          · rfl
        rw [hunsigned] at h
        rw [List.cons_append, hunsigned]
        exact scanUnsigned_append h hafter more

/-- The characters of a string that comes to its end, character by character and escape by escape,
up to what follows its closing quote. -/
inductive Closes (after : List Char) : List Char → Prop where
  | quote : Closes after ('"' :: after)
  | unit {a b c d : Char} {unit : Nat} {rest : List Char} (hunit : unitEscape? a b c d = some unit)
      (hrest : Closes after rest) : Closes after ('\\' :: 'u' :: a :: b :: c :: d :: rest)
  | letter {c value : Char} {rest : List Char} (hletter : letterEscape? c = some value)
      (hrest : Closes after rest) : Closes after ('\\' :: c :: rest)
  | plain {c : Char} {rest : List Char} (hquote : c ≠ '"') (hslash : c ≠ '\\')
      (hcontrol : ¬ c.toNat < 0x20) (hrest : Closes after rest) : Closes after (c :: rest)

/-- Skipping succeeds on just the strings that come to their end. -/
theorem skipQuoted_eq_ok_iff {text after : List Char} :
    skipQuoted text = .ok after ↔ Closes after text := by
  constructor
  · intro h
    fun_induction skipQuoted text with
    | case2 a b c d rest unit hunit ih => exact .unit hunit (ih h)
    | case5 c rest hunit hshort hletter ih =>
        obtain ⟨value, hvalue⟩ := Option.isSome_iff_exists.1 hletter
        exact .letter hvalue (ih h)
    | case8 rest =>
        cases h
        exact .quote
    | case10 c rest hunit hshort hletter hcut hquote hcontrol ih =>
        refine .plain hquote ?_ hcontrol (ih h)
        -- A backslash would begin an escape, or be the end of the text.
        intro hslash
        cases rest with
        | nil => exact hcut hslash rfl
        | cons d rest => exact hletter d rest hslash rfl
    | _ => cases h
  · intro h
    induction h with
    | quote => rfl
    | unit hunit hrest ih => simpa [skipQuoted, hunit] using ih
    | letter hletter hrest ih =>
        have hu := ne_u_of_letterEscape? hletter
        simpa [skipQuoted, hu, hletter] using ih
    | plain hquote hslash hcontrol hrest ih => simpa [skipQuoted, hslash, hcontrol] using ih

/-- A string that comes to its end comes to the same end in a longer text. -/
theorem Closes.append {text after : List Char} (h : Closes after text) (more : List Char) :
    Closes (after ++ more) (text ++ more) := by
  induction h with
  | quote => exact .quote
  | unit hunit hrest ih => exact .unit hunit ih
  | letter hletter hrest ih => exact .letter hletter ih
  | plain hquote hslash hcontrol hrest ih => exact .plain hquote hslash hcontrol ih

/-- A character pushed in front of a reading has nothing to do with what follows. -/
theorem map_pushChar (c : Char) (reading : Except TextFault (List Char × List Char))
    (more : List Char) :
    (pushChar c reading).map (Prod.map id (· ++ more)) =
      pushChar c (reading.map (Prod.map id (· ++ more))) := by
  cases reading <;> rfl

-- The faults of a string depend on what can be seen behind them, up to the closing quote and no
-- further. So the walk is that of the reader, and `Closes` says what there is left to see.
/-- A string that comes to its end is read in the same way in a longer text, or has the same
fault. -/
theorem readQuoted_append {inside after : List Char} (h : skipQuoted inside = .ok after)
    (more : List Char) :
    readQuoted (inside ++ more) = (readQuoted inside).map (Prod.map id (· ++ more)) := by
  fun_induction readQuoted inside with
  | case5 a b c d a' b' c' d' rest unit hunit htrailing hleading next hnext hpair ih =>
      have hrest : skipQuoted rest = .ok after := by simpa [skipQuoted, hunit, hnext] using h
      simp only [List.cons_append, readQuoted, hunit, htrailing, hleading, hnext, hpair, ih hrest,
        map_pushChar]
      rfl
  | case7 a b c d a' b' c' d' rest unit hunit htrailing hleading ih =>
      have hrest : skipQuoted ('\\' :: 'u' :: a' :: b' :: c' :: d' :: rest) = .ok after := by
        simpa [skipQuoted, hunit] using h
      rw [map_pushChar, ← ih hrest]
      exact readQuoted_unit _ hunit (by simpa using htrailing) (by simpa using hleading)
  | case10 a b c d rest hsingle unit hunit htrailing hleading =>
      -- The first half of a pair: the fault is that of what stands in the place of the second.
      have hrest : skipQuoted rest = .ok after := by simpa [skipQuoted, hunit] using h
      cases skipQuoted_eq_ok_iff.1 hrest with
      | quote => simp [readQuoted, hunit, htrailing, hleading, pairFault, Except.map]
      | unit => exact absurd rfl (hsingle _ _ _ _ _)
      | letter hletter =>
          have hu := ne_u_of_letterEscape? hletter
          simp [readQuoted, hunit, htrailing, hleading, pairFault, hu, Except.map]
      | plain hquote hslash =>
          simp [readQuoted, hunit, htrailing, hleading, pairFault, hslash, Except.map]
  | case11 a b c d rest hsingle unit hunit htrailing hleading ih =>
      have hrest : skipQuoted rest = .ok after := by simpa [skipQuoted, hunit] using h
      rw [map_pushChar, ← ih hrest]
      exact readQuoted_unit _ hunit (by simpa using htrailing) (by simpa using hleading)
  | case13 c rest hpair hunit hshort value hletter ih =>
      have hrest : skipQuoted rest = .ok after := by simpa [skipQuoted, hshort, hletter] using h
      rw [map_pushChar, ← ih hrest]
      exact readQuoted_letter _ hletter
  | case16 => rfl
  | case18 c rest hpair hunit hshort hletter hcut hquote hcontrol ih =>
      cases skipQuoted_eq_ok_iff.1 h with
      | quote => exact absurd rfl hquote
      | unit => exact (hshort _ rfl rfl).elim
      | letter => exact (hletter _ _ rfl rfl).elim
      | plain hquote hslash hcontrol hrest =>
          rw [map_pushChar, ← ih (skipQuoted_eq_ok_iff.2 hrest)]
          exact readQuoted_plain _ hquote hslash hcontrol
  | case1 | case15 => cases h
  | _ =>
      simp only [List.cons_append]
      rw [readQuoted.eq_def]
      split <;> grind [skipQuoted, Except.map, pairFault]

/-- A string that comes to its end is the same token in a longer text. -/
theorem ofQuoted_append {inside after : List Char} (h : skipQuoted inside = .ok after)
    (more : List Char) : Token.ofQuoted (inside ++ more) = Token.ofQuoted inside := by
  unfold Token.ofQuoted
  rw [readQuoted_append h]
  cases readQuoted inside <;> rfl

/-- A word that is matched stands at the front of its text. -/
theorem eq_append_of_matchWord {word text after : List Char} (h : matchWord word text = .ok after) :
    text = word ++ after := by
  fun_induction matchWord word text with
  | case1 rest => exact Except.ok.inj h
  | case2 => cases h
  | case3 w ws rest ih => rw [ih h, List.cons_append]
  | case4 => cases h

/-- A word is matched where it stands. -/
theorem matchWord_append (word after : List Char) : matchWord word (word ++ after) = .ok after := by
  induction word with
  | nil => rfl
  | cons w ws ih => simpa [matchWord] using ih

/-- True of the tokens of one character. -/
def Token.IsPunctuation : Token → Prop
  | .openArray | .closeArray | .openObject | .closeObject | .colon | .comma => True
  | _ => False

/-- A numeral is no punctuation. -/
theorem Token.not_isPunctuation_ofNumeral (numeral : Numeral) :
    ¬ (Token.ofNumeral numeral).IsPunctuation := by
  unfold Token.ofNumeral
  split <;> exact id

/-- A string that breaks off is no punctuation. -/
theorem Token.not_isPunctuation_ofCutQuoted (inside : List Char) (skipped : TextFault) :
    ¬ (Token.ofCutQuoted inside skipped).IsPunctuation := by
  unfold Token.ofCutQuoted
  split <;> exact id

/-- True of tokens whose last one, if there is any, is punctuation. -/
def EndsInPunctuation (tokens : List Token) : Prop :=
  ∀ last ∈ tokens.getLast?, last.IsPunctuation

/-- The last token of later tokens is the last of all. -/
theorem EndsInPunctuation.of_cons {token : Token} {later : List Token}
    (h : EndsInPunctuation (token :: later)) : EndsInPunctuation later := by
  intro last hlast
  exact h last (by rw [List.getLast?_cons, Option.mem_def.1 hlast]; rfl)

/-- A single token that is no punctuation is last. -/
theorem not_endsInPunctuation_singleton {token : Token} (h : ¬ token.IsPunctuation) :
    ¬ EndsInPunctuation [token] :=
  fun hends ↦ h (hends token rfl)

/-- The tokens of a text that ends in punctuation are followed by those of the text behind it. -/
theorem tokens_append {text : List Char} (h : EndsInPunctuation (tokens text)) (more : List Char) :
    tokens (text ++ more) = tokens text ++ tokens more := by
  fun_induction tokens text with
  | case1 => rfl
  | case2 c rest hspace ih => rw [List.cons_append, tokens, if_pos hspace, ih h]
  | case3 c rest hspace token hpunct ih =>
      rw [List.cons_append, tokens_punctuation _ (by simpa using hspace) hpunct, ih h.of_cons,
        List.cons_append]
  | case4 rest after hskip hspace hpunct ih =>
      have hmore := skipQuoted_eq_ok_iff.2 ((skipQuoted_eq_ok_iff.1 hskip).append more)
      rw [List.cons_append, tokens_quote_of_skipQuoted hmore, ofQuoted_append hskip, ih h.of_cons,
        List.cons_append]
  | case5 rest skipped hskip =>
      have hcut := Token.not_isPunctuation_ofCutQuoted rest skipped
      exact absurd h (not_endsInPunctuation_singleton hcut)
  | case6 c rest hspace hpunct hquote word doc hword after hmatch ih =>
      obtain rfl := eq_append_of_matchWord hmatch
      rw [List.cons_append, List.append_assoc, tokens_word (after ++ more) (by simpa using hspace)
        hpunct hquote hword (matchWord_append _ _), ih h.of_cons, List.cons_append]
  | case7 => exact absurd h (not_endsInPunctuation_singleton id)
  | case8 c rest hspace hpunct hquote hword hdigit numeral after hscan ih =>
      -- Something follows the numeral, since the last token is another one.
      have hafter : after ≠ [] := by
        rintro rfl
        rw [tokens] at h
        have hnumeral := Token.not_isPunctuation_ofNumeral numeral
        exact not_endsInPunctuation_singleton hnumeral h
      have hmore := scanNumeral_append hscan hafter more
      rw [List.cons_append] at hmore ⊢
      rw [tokens_numeral (by simpa using hspace) hpunct hquote hword hdigit hmore, ih h.of_cons,
        List.cons_append]
  | case9 => exact absurd h (not_endsInPunctuation_singleton id)
  | case10 => exact absurd h (not_endsInPunctuation_singleton id)

end FunctionBindings.Json
