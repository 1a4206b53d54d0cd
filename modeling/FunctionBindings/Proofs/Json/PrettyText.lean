import FunctionBindings.Proofs.Json.RoundTrip

/-!
# Reading pretty texts

The pretty text of a value has the same tokens as its compact text: what it has more are line
breaks, indentation and the blank behind a colon, and all of these stand between tokens. So the two
texts have the same document, and every reader finds the same in both. Main statement:
`document_prettyText`.
-/

namespace FunctionBindings.Json

/-- A blank between tokens is dropped. -/
theorem tokens_space {c : Char} (rest : List Char) (h : isSpace c) :
    tokens (c :: rest) = tokens rest := by
  rw [tokens, if_pos h]

/-- Any number of blanks is dropped. -/
theorem tokens_replicate_space (n : Nat) (rest : List Char) :
    tokens (List.replicate n ' ' ++ rest) = tokens rest := by
  induction n with
  | zero => rfl
  | succ n ih => rw [List.replicate_succ, List.cons_append, tokens_space _ rfl, ih]

/-- A line break is dropped with the indentation behind it. -/
@[simp] theorem tokens_newline (level : Nat) (rest : List Char) :
    tokens (newline level ++ rest) = tokens rest := by
  rw [newline, List.cons_append, tokens_space _ rfl, tokens_replicate_space]

/-- No numeral goes on behind the items of an array. -/
theorem endsNumeral_prettyItems (items : List Json) (level : Nat) (rest : List Char) :
    EndsNumeral (prettyItems items level ++ rest) := by
  cases items <;> simp [prettyItems, newline, EndsNumeral] <;> decide

/-- No numeral goes on behind the members of an object. -/
theorem endsNumeral_prettyMembers (members : List (String × Json)) (level : Nat)
    (rest : List Char) : EndsNumeral (prettyMembers members level ++ rest) := by
  cases members <;> simp [prettyMembers, newline, EndsNumeral] <;> decide

-- The walks are those over the compact text, at every level of indentation.
mutual

/-- The pretty text of a value has the tokens of the value, followed by those of the rest. -/
theorem tokens_prettyAt : ∀ (value : Json) (level : Nat) (rest : List Char),
    HasExactNumbers value → EndsNumeral rest →
    tokens (prettyAt value level ++ rest) = toTokens value ++ tokens rest
  | .null, _, rest, _, _ => tokens_word rest rfl rfl (by decide) rfl rfl
  | .bool true, _, rest, _, _ => tokens_word rest rfl rfl (by decide) rfl rfl
  | .bool false, _, rest, _, _ => tokens_word rest rfl rfl (by decide) rfl rfl
  | .number value, _, rest, h, hrest => tokens_numberText h hrest
  | .string text, _, rest, _, _ => tokens_quoted text rest
  | .array [], _, rest, _, _ => by
      simp [prettyAt, toTokens]
  | .array (item :: items), level, rest, h, hrest => by
      obtain ⟨hitem, hitems⟩ := h
      have hends := endsNumeral_prettyItems items level rest
      have hhead := tokens_prettyAt item (level + 1) (prettyItems items level ++ rest) hitem hends
      have htail := tokens_prettyItems items level rest hitems
      simp [prettyAt, toTokens, hhead, htail]
  | .object [], _, rest, _, _ => by
      simp [prettyAt, toTokens]
  | .object ((key, value) :: members), level, rest, h, hrest => by
      obtain ⟨hvalue, hmembers⟩ := h
      have hends := endsNumeral_prettyMembers members level rest
      have hblank := tokens_space (prettyAt value (level + 1) ++
        (prettyMembers members level ++ rest)) (c := ' ') rfl
      have hhead :=
        tokens_prettyAt value (level + 1) (prettyMembers members level ++ rest) hvalue hends
      have htail := tokens_prettyMembers members level rest hmembers
      simp [prettyAt, toTokens, hblank, hhead, htail]

/-- The text of later items has their tokens, followed by those of the rest. -/
theorem tokens_prettyItems : ∀ (items : List Json) (level : Nat) (rest : List Char),
    HaveExactNumbers items →
    tokens (prettyItems items level ++ rest) = laterItemTokens items ++ tokens rest
  | [], level, rest, _ => by
      simp [prettyItems, laterItemTokens]
  | item :: items, level, rest, h => by
      obtain ⟨hitem, hitems⟩ := h
      have hends := endsNumeral_prettyItems items level rest
      have hhead := tokens_prettyAt item (level + 1) (prettyItems items level ++ rest) hitem hends
      have htail := tokens_prettyItems items level rest hitems
      simp [prettyItems, laterItemTokens, hhead, htail]

/-- The text of later members has their tokens, followed by those of the rest. -/
theorem tokens_prettyMembers : ∀ (members : List (String × Json)) (level : Nat)
    (rest : List Char), MembersHaveExactNumbers members →
    tokens (prettyMembers members level ++ rest) = laterMemberTokens members ++ tokens rest
  | [], level, rest, _ => by
      simp [prettyMembers, laterMemberTokens]
  | (key, value) :: members, level, rest, h => by
      obtain ⟨hvalue, hmembers⟩ := h
      have hends := endsNumeral_prettyMembers members level rest
      have hblank := tokens_space (prettyAt value (level + 1) ++
        (prettyMembers members level ++ rest)) (c := ' ') rfl
      have hhead :=
        tokens_prettyAt value (level + 1) (prettyMembers members level ++ rest) hvalue hends
      have htail := tokens_prettyMembers members level rest hmembers
      simp [prettyMembers, laterMemberTokens, hblank, hhead, htail]

end

/-- The two texts of a value have the same tokens. -/
theorem tokens_prettyText {value : Json} (h : value.HasExactNumbers) :
    tokens value.prettyText.toList = tokens value.compactText.toList := by
  have hpretty := tokens_prettyAt value 0 [] h trivial
  have hcompact := tokens_compact value [] h trivial
  rw [List.append_nil] at hpretty hcompact
  rw [prettyText, compactText, String.toList_ofList, String.toList_ofList, hpretty, hcompact]

/-- The document of a value written in pretty form is complete and is that of the value. -/
theorem document_prettyText {value : Json} (hnumbers : value.HasExactNumbers)
    (hdepth : value.depth ≤ depthLimit) :
    Document.ofText value.prettyText = ⟨toDoc value, false⟩ := by
  rw [← document_compactText hnumbers hdepth, Document.ofText, Document.ofText,
    tokens_prettyText hnumbers]

end FunctionBindings.Json
