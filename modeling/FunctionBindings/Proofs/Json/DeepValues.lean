import FunctionBindings.Proofs.Json.TypedReading

/-!
# Values that nest too far

A value that nests its arrays and objects further than the reader allows can be written, but its
text is refused. Main statement: `ofText_compactText_of_deep`.
-/

namespace FunctionBindings.Json

-- Whatever stands in front of the place that is too deep is read, so that place is the first fault.
mutual

/-- A value that is too deep where it stands is refused. -/
theorem value_docAt_of_deep : ∀ (value : Json) (level : Nat), level ≤ depthLimit →
    depthLimit < value.depth + level → (docAt value level).value = .error (.text .tooDeep)
  | .null, level, hlevel, h => absurd h (by simp only [depth]; omega)
  | .bool _, level, hlevel, h => absurd h (by simp only [depth]; omega)
  | .number _, level, hlevel, h => absurd h (by simp only [depth]; omega)
  | .string _, level, hlevel, h => absurd h (by simp only [depth]; omega)
  | .array items, level, hlevel, h => by
      simp only [depth] at h
      by_cases hdeep : depthLimit ≤ level
      · simp [docAt, Doc.value, refuseDeep, hdeep, refuse, bind, Except.bind]
      · have hitems := values_docsAt_of_deep items (level + 1) (by omega) (by omega)
        simp [docAt, Doc.value, refuseDeep, hdeep, hitems, bind, Except.bind]
  | .object members, level, hlevel, h => by
      simp only [depth] at h
      by_cases hdeep : depthLimit ≤ level
      · simp [docAt, Doc.value, refuseDeep, hdeep, refuse, bind, Except.bind]
      · have hmembers := memberValues_memberDocsAt_of_deep members (level + 1) (by omega) (by omega)
        simp [docAt, Doc.value, refuseDeep, hdeep, hmembers, bind, Except.bind]

/-- Items of which one is too deep are refused. -/
theorem values_docsAt_of_deep : ∀ (items : List Json) (level : Nat), level ≤ depthLimit →
    depthLimit < depthOfItems items + level →
    Doc.values (docsAt items level) = .error (.text .tooDeep)
  | [], level, hlevel, h => absurd h (by simp only [depthOfItems]; omega)
  | item :: items, level, hlevel, h => by
      simp only [depthOfItems] at h
      by_cases hitem : depthLimit < item.depth + level
      · simp [docsAt, Doc.values, value_docAt_of_deep item level hlevel hitem, bind, Except.bind]
      · obtain ⟨found, hfound⟩ := exists_value_toDoc item
        have hitems := values_docsAt_of_deep items level hlevel (by omega)
        simp [docsAt, Doc.values, docAt_of_depth_le item level (by omega), hfound, hitems, bind,
          Except.bind]

/-- Members of which one is too deep are refused. -/
theorem memberValues_memberDocsAt_of_deep : ∀ (members : List (String × Json)) (level : Nat),
    level ≤ depthLimit → depthLimit < depthOfMembers members + level →
    Doc.memberValues (memberDocsAt members level) = .error (.text .tooDeep)
  | [], level, hlevel, h => absurd h (by simp only [depthOfMembers]; omega)
  | (key, value) :: members, level, hlevel, h => by
      simp only [depthOfMembers] at h
      by_cases hvalue : depthLimit < value.depth + level
      · simp [memberDocsAt, Doc.memberValues, Key.name,
          value_docAt_of_deep value level hlevel hvalue, bind, Except.bind]
      · obtain ⟨found, hfound⟩ := exists_value_toDoc value
        have hmembers := memberValues_memberDocsAt_of_deep members level hlevel (by omega)
        simp [memberDocsAt, Doc.memberValues, Key.name, docAt_of_depth_le value level (by omega),
          hfound, hmembers, bind, Except.bind]

end

/-- The text of a value that nests too far is refused. -/
theorem ofText_compactText_of_deep {value : Json} (hnumbers : value.HasExactNumbers)
    (hdeep : depthLimit < value.depth) : ofText value.compactText = .error (.text .tooDeep) := by
  have hvalue := value_docAt_of_deep value 0 (Nat.zero_le depthLimit) hdeep
  rw [ofText, document_compactText_eq hnumbers, Document.readWith, hvalue]
  rfl

end FunctionBindings.Json
