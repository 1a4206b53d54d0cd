import FunctionBindings.Proofs.Json.Escaping
import FunctionBindings.Proofs.Json.Numerals

/-!
# Tokens of written values

`Json.toTokens` lists the tokens of a value without going through its text. Main statement:
`tokens_compact` says that cutting the compact text of a value gives just these tokens and goes on
with whatever follows the text. It holds of every value whose numbers are written exactly.
-/

namespace FunctionBindings.Json

mutual

/-- The tokens of a value. -/
def toTokens : Json → List Token
  | .null => [.scalar .null]
  | .bool value => [.scalar (.bool value)]
  | .number value => [.scalar (.number value)]
  | .string text => [.text (.named text)]
  | .array [] => [.openArray, .closeArray]
  | .array (item :: items) => .openArray :: (toTokens item ++ laterItemTokens items)
  | .object [] => [.openObject, .closeObject]
  | .object ((key, value) :: members) =>
      .openObject :: .text (.named key) :: .colon :: (toTokens value ++ laterMemberTokens members)
termination_by structural value => value

/-- The tokens of the items after the first one, up to the end of the array. -/
def laterItemTokens : List Json → List Token
  | [] => [.closeArray]
  | item :: items => .comma :: (toTokens item ++ laterItemTokens items)
termination_by structural items => items

/-- The tokens of the members after the first one, up to the end of the object. -/
def laterMemberTokens : List (String × Json) → List Token
  | [] => [.closeObject]
  | (key, value) :: members =>
      .comma :: .text (.named key) :: .colon :: (toTokens value ++ laterMemberTokens members)
termination_by structural members => members

end

mutual

/-- True of a value whose numbers are all written exactly. -/
def HasExactNumbers : Json → Prop
  | .number value => value.IsExact
  | .array items => HaveExactNumbers items
  | .object members => MembersHaveExactNumbers members
  | _ => True
termination_by structural value => value

/-- True of items whose numbers are all written exactly. -/
def HaveExactNumbers : List Json → Prop
  | [] => True
  | item :: items => HasExactNumbers item ∧ HaveExactNumbers items
termination_by structural items => items

/-- True of members whose numbers are all written exactly. -/
def MembersHaveExactNumbers : List (String × Json) → Prop
  | [] => True
  | (_, value) :: members => HasExactNumbers value ∧ MembersHaveExactNumbers members
termination_by structural members => members

end

/-- Items are written exactly if each is. -/
theorem haveExactNumbers_iff {items : List Json} :
    HaveExactNumbers items ↔ ∀ item ∈ items, item.HasExactNumbers := by
  induction items with
  | nil => simp [HaveExactNumbers]
  | cons item items ih => simp [HaveExactNumbers, ih]

/-- Members are written exactly if the value of each is. -/
theorem membersHaveExactNumbers_iff {members : List (String × Json)} :
    MembersHaveExactNumbers members ↔ ∀ member ∈ members, member.2.HasExactNumbers := by
  induction members with
  | nil => simp [MembersHaveExactNumbers]
  | cons member members ih => simp [MembersHaveExactNumbers, ih]

/-- A punctuation character is a token of its own. -/
theorem tokens_punctuation {c : Char} {token : Token} (rest : List Char)
    (hspace : isSpace c = false) (h : punctuation? c = some token) :
    tokens (c :: rest) = token :: tokens rest := by
  rw [tokens]
  simp [hspace, h]

@[simp] theorem tokens_openArray (rest : List Char) :
    tokens ('[' :: rest) = .openArray :: tokens rest := tokens_punctuation rest rfl rfl

@[simp] theorem tokens_closeArray (rest : List Char) :
    tokens (']' :: rest) = .closeArray :: tokens rest := tokens_punctuation rest rfl rfl

@[simp] theorem tokens_openObject (rest : List Char) :
    tokens ('\x7b' :: rest) = .openObject :: tokens rest := tokens_punctuation rest rfl rfl

@[simp] theorem tokens_closeObject (rest : List Char) :
    tokens ('\x7d' :: rest) = .closeObject :: tokens rest := tokens_punctuation rest rfl rfl

@[simp] theorem tokens_colon (rest : List Char) :
    tokens (':' :: rest) = .colon :: tokens rest := tokens_punctuation rest rfl rfl

@[simp] theorem tokens_comma (rest : List Char) :
    tokens (',' :: rest) = .comma :: tokens rest := tokens_punctuation rest rfl rfl

/-- A string that comes to its end is one token. -/
theorem tokens_quote_of_skipQuoted {inside after : List Char} (h : skipQuoted inside = .ok after) :
    tokens ('"' :: inside) = Token.ofQuoted inside :: tokens after := by
  have hspace : isSpace '"' = false := rfl
  have hpunct : punctuation? '"' = none := rfl
  rw [tokens]
  simp only [hspace, hpunct, if_true, Bool.false_eq_true, if_false]
  split
  · rename_i rest heq
    rw [h, Except.ok.injEq] at heq
    rw [heq]
  · rename_i heq
    rw [h] at heq
    cases heq

/-- A written string is one token. -/
@[simp] theorem tokens_quoted (text : String) (rest : List Char) :
    tokens (quoted text ++ rest) = .text (.named text) :: tokens rest := by
  have hread := readQuoted_escape text.toList rest
  have hskip := skipQuoted_escape text.toList rest
  have htext : quoted text ++ rest = '"' :: (escape text.toList ++ '"' :: rest) := by
    simp [quoted]
  -- The end of the string is found by skipping it, and its text by reading it.
  rw [htext, tokens_quote_of_skipQuoted hskip, Token.ofQuoted, hread]
  simp

/-- A word that begins no other token is one token. -/
theorem tokens_word {c : Char} {word : List Char} {doc : Doc} (rest : List Char)
    (hspace : isSpace c = false) (hpunct : punctuation? c = none) (hquote : c ≠ '"')
    (hword : word? c = some (word, doc)) (hmatch : matchWord word (word ++ rest) = .ok rest) :
    tokens (c :: (word ++ rest)) = .scalar doc :: tokens rest := by
  rw [tokens]
  simp only [hspace, hpunct, hquote, hword, Bool.false_eq_true, if_false]
  split
  · rename_i heq
    rw [hmatch, Except.ok.injEq] at heq
    rw [heq]
  · rename_i heq
    rw [hmatch] at heq
    cases heq

/-- A numeral that begins no other token is one token. -/
theorem tokens_numeral {c : Char} {text rest : List Char} {numeral : Numeral}
    (hspace : isSpace c = false) (hpunct : punctuation? c = none) (hquote : c ≠ '"')
    (hword : word? c = none) (hdigit : c = '-' ∨ (Decimal.digitValue? c).isSome)
    (hscan : scanNumeral (c :: text) = .ok (numeral, rest)) :
    tokens (c :: text) = Token.ofNumeral numeral :: tokens rest := by
  rw [tokens]
  simp only [hspace, hpunct, hquote, hword, hdigit, Bool.false_eq_true, if_false, if_true]
  split
  · rename_i heq
    rw [hscan, Except.ok.injEq, Prod.mk.injEq] at heq
    rw [heq.1, heq.2]
  · rename_i heq
    rw [hscan] at heq
    cases heq

/-- A number or word in a text is null, a truth value, or a numeral that has a value or none. -/
theorem scalar_of_mem_tokens {text : List Char} {doc : Doc} (h : .scalar doc ∈ tokens text) :
    doc = .null ∨ (∃ value, doc = .bool value) ∨ doc = .beyond ∨
      ∃ (numeral : Numeral) (value : Number),
        numeral.value? = some value ∧ doc = .number value := by
  fun_induction tokens text with
  | case1 => cases h
  | case2 c rest hspace ih => exact ih h
  | case3 c rest hspace token hpunct ih =>
      have htoken : Token.scalar doc ≠ token := by
        unfold punctuation? at hpunct
        grind
      exact ih ((List.mem_cons.1 h).resolve_left htoken)
  | case4 rest after hskip hspace hpunct ih =>
      have htoken : Token.scalar doc ≠ Token.ofQuoted rest := by
        unfold Token.ofQuoted
        split <;> nofun
      exact ih ((List.mem_cons.1 h).resolve_left htoken)
  | case5 rest skipped hskip =>
      have htoken := List.mem_singleton.1 h
      unfold Token.ofCutQuoted at htoken
      split at htoken <;> cases htoken
  | case6 c rest hspace hpunct hquote word found hword after hmatch ih =>
      obtain hfound | hafter := List.mem_cons.1 h
      · cases hfound
        unfold word? at hword
        grind
      · exact ih hafter
  | case8 c rest hspace hpunct hquote hword hdigit numeral after hscan ih =>
      obtain hfound | hafter := List.mem_cons.1 h
      · unfold Token.ofNumeral at hfound
        cases hvalue : numeral.value? with
        | none =>
            rw [hvalue] at hfound
            cases hfound
            exact .inr (.inr (.inl rfl))
        | some value =>
            rw [hvalue] at hfound
            cases hfound
            exact .inr (.inr (.inr ⟨numeral, value, hvalue, rfl⟩))
      · exact ih hafter
  | case7 | case9 | case10 => cases List.mem_singleton.1 h
/-- The first character of a written integer begins no token but a numeral. -/
theorem intText_eq_cons (n : Int) :
    ∃ c text, Decimal.intText n = c :: text ∧ isSpace c = false ∧ punctuation? c = none ∧
      c ≠ '"' ∧ word? c = none ∧ (c = '-' ∨ (Decimal.digitValue? c).isSome) := by
  have hdigit : ∀ d < 10, isSpace (Decimal.digitChar d) = false ∧
      (punctuation? (Decimal.digitChar d)).isNone ∧ Decimal.digitChar d ≠ '"' ∧
      (word? (Decimal.digitChar d)).isNone ∧
      (Decimal.digitValue? (Decimal.digitChar d)).isSome := by
    decide
  cases n with
  | ofNat n =>
      obtain ⟨d, ds, hd, htext⟩ := natText_eq_cons n
      obtain ⟨hspace, hpunct, hquote, hword, hvalue⟩ := hdigit d hd
      exact ⟨_, _, htext, hspace, Option.isNone_iff_eq_none.1 hpunct, hquote,
        Option.isNone_iff_eq_none.1 hword, .inr hvalue⟩
  | negSucc n => exact ⟨'-', _, rfl, rfl, rfl, by decide, rfl, .inl rfl⟩

/-- A number that is written exactly is one token. -/
theorem tokens_numberText {value : Number} {rest : List Char} (h : value.IsExact)
    (hrest : EndsNumeral rest) :
    tokens (value.text ++ rest) = .scalar (.number value) :: tokens rest := by
  cases value with
  | float x => exact h.elim
  | int n =>
      have hscan := scanNumeral_intText n hrest
      obtain ⟨c, text, htext, hspace, hpunct, hquote, hword, hdigit⟩ := intText_eq_cons n
      rw [htext, List.cons_append] at hscan
      rw [Number.text, htext, List.cons_append,
        tokens_numeral hspace hpunct hquote hword hdigit hscan, Token.ofNumeral, value?_ofInt h]

/-- No numeral goes on behind the items of an array. -/
theorem endsNumeral_compactItems (items : List Json) (rest : List Char) :
    EndsNumeral (compactItems items ++ rest) := by
  cases items <;> simp [compactItems, EndsNumeral] <;> decide

/-- No numeral goes on behind the members of an object. -/
theorem endsNumeral_compactMembers (members : List (String × Json)) (rest : List Char) :
    EndsNumeral (compactMembers members ++ rest) := by
  cases members <;> simp [compactMembers, EndsNumeral] <;> decide

-- The three walks are those of the printer. A numeral has to see where it ends, hence the condition
-- on what follows a value; the items and members begin with a delimiter and need none.
mutual

/-- The compact text of a value has the tokens of the value, followed by those of the rest. -/
theorem tokens_compact : ∀ (value : Json) (rest : List Char), HasExactNumbers value →
    EndsNumeral rest → tokens (compact value ++ rest) = toTokens value ++ tokens rest
  | .null, rest, _, _ => tokens_word rest rfl rfl (by decide) rfl rfl
  | .bool true, rest, _, _ => tokens_word rest rfl rfl (by decide) rfl rfl
  | .bool false, rest, _, _ => tokens_word rest rfl rfl (by decide) rfl rfl
  | .number value, rest, h, hrest => tokens_numberText h hrest
  | .string text, rest, _, _ => tokens_quoted text rest
  | .array [], rest, _, _ => by
      simp [compact, toTokens]
  | .array (item :: items), rest, h, hrest => by
      obtain ⟨hitem, hitems⟩ := h
      have hends := endsNumeral_compactItems items rest
      have hhead := tokens_compact item (compactItems items ++ rest) hitem hends
      have htail := tokens_compactItems items rest hitems
      simp [compact, toTokens, hhead, htail]
  | .object [], rest, _, _ => by
      simp [compact, toTokens]
  | .object ((key, value) :: members), rest, h, hrest => by
      obtain ⟨hvalue, hmembers⟩ := h
      have hends := endsNumeral_compactMembers members rest
      have hhead := tokens_compact value (compactMembers members ++ rest) hvalue hends
      have htail := tokens_compactMembers members rest hmembers
      simp [compact, toTokens, hhead, htail]

/-- The text of later items has their tokens, followed by those of the rest. -/
theorem tokens_compactItems : ∀ (items : List Json) (rest : List Char), HaveExactNumbers items →
    tokens (compactItems items ++ rest) = laterItemTokens items ++ tokens rest
  | [], rest, _ => by
      simp [compactItems, laterItemTokens]
  | item :: items, rest, h => by
      obtain ⟨hitem, hitems⟩ := h
      have hends := endsNumeral_compactItems items rest
      have hhead := tokens_compact item (compactItems items ++ rest) hitem hends
      have htail := tokens_compactItems items rest hitems
      simp [compactItems, laterItemTokens, hhead, htail]

/-- The text of later members has their tokens, followed by those of the rest. -/
theorem tokens_compactMembers : ∀ (members : List (String × Json)) (rest : List Char),
    MembersHaveExactNumbers members →
    tokens (compactMembers members ++ rest) = laterMemberTokens members ++ tokens rest
  | [], rest, _ => by
      simp [compactMembers, laterMemberTokens]
  | (key, value) :: members, rest, h => by
      obtain ⟨hvalue, hmembers⟩ := h
      have hends := endsNumeral_compactMembers members rest
      have hhead := tokens_compact value (compactMembers members ++ rest) hvalue hends
      have htail := tokens_compactMembers members rest hmembers
      simp [compactMembers, laterMemberTokens, hhead, htail]

end

end FunctionBindings.Json
