import FunctionBindings.Proofs.Generation.RenderedConstants
import FunctionBindings.Proofs.Json.QuotedText

/-!
# Arguments in quotes

A string argument that is in quotes is emitted without them in an array: what stands between them is
an item as it is. By itself it is a literal, which is read as JSON: without its quotes and escapes
if it reads, and quoted once more if it does not. Main statement: `quotedArgument_emitted`.
-/

namespace FunctionBindings

/-- What an argument is emitted as in a descriptor, if it is emitted. -/
def Constant.emitted? (constant : Constant) : Option Json :=
  constant.property?.map Descriptor.propertyJson

/-- What stands between the quotes of a text is shorter than the text. -/
theorem ofList_ne_of_quoted {content : String} {inner cs : List Char}
    (h : content.toList = '"' :: (inner ++ ['"'])) (hlength : cs.length ≤ inner.length) :
    String.ofList cs ≠ content := by
  rintro rfl
  rw [String.toList_ofList] at h
  have hcs := congrArg List.length h
  simp only [List.length_cons, List.length_append, List.length_nil] at hcs
  omega

namespace Constant

variable {content : String} {inner : List Char}

/-- A string in quotes is emitted as the value that it reads as, or as it is. -/
theorem emitted?_of_quoted (h : isQuotedText content.toList) :
    emitted? (.scalar (.string content)) = some (Descriptor.propertyJson (.literal content)) := by
  simp only [emitted?, property?, h, if_true, Option.map_some]

/-- An array is emitted as the texts of its items. -/
theorem emitted?_array (items : List Constant) :
    emitted? (.array items) = some (.strings (items.filterMap text?)) := rfl

end Constant

/-- A string argument in quotes is emitted as a string. In an array it is what stands between the
quotes, never the argument itself. By itself it is what the argument reads as: the same if all the
characters between the quotes stand for themselves, and another string otherwise; an argument that
does not read keeps its quotes. -/
theorem quotedArgument_emitted {content : String} (hquoted : isQuotedText content.toList) :
    ∃ (inner : List Char) (scalar : String),
      content.toList = '"' :: (inner ++ ['"']) ∧
      Constant.emitted? (.scalar (.string content)) = some (.string scalar) ∧
      (∀ before after : List Constant,
        Constant.emitted? (.array (before ++ .scalar (.string content) :: after)) =
          some (.strings (before.filterMap Constant.text? ++
            String.ofList inner :: after.filterMap Constant.text?))) ∧
      String.ofList inner ≠ content ∧
      (scalar = String.ofList inner ↔ ∀ c ∈ inner, Json.IsPlain c) ∧
      (scalar = content ↔ ∀ value, Json.ofText content ≠ .ok value) ∧
      ∀ value, Json.ofText content = .ok value → value = .string scalar := by
  obtain ⟨inner, hcontent⟩ := isQuotedText_iff.1 hquoted
  have hitem (before after : List Constant) :
      Constant.emitted? (.array (before ++ .scalar (.string content) :: after)) =
        some (.strings (before.filterMap Constant.text? ++
          String.ofList inner :: after.filterMap Constant.text?)) := by
    have htext : Constant.text? (.scalar (.string content)) = some (String.ofList inner) :=
      Scalar.text?_of_quoted hcontent
    rw [Constant.emitted?_array, List.filterMap_append, List.filterMap_cons_some htext]
  have hinner := ofList_ne_of_quoted hcontent (Nat.le_refl inner.length)
  cases hread : Json.ofText content with
  | ok value =>
      obtain ⟨cs, hcs, hwritten, rfl⟩ := (Json.ofText_quoted_eq_ok_iff hcontent).1 hread
      have hscalar := ofList_ne_of_quoted hcontent hwritten.length_le
      refine ⟨inner, String.ofList cs, hcontent, ?_, hitem, hinner, ?_, ?_, ?_⟩
      · rw [Constant.emitted?_of_quoted hquoted, Descriptor.propertyJson, hread]
      · constructor
        · intro hsame
          obtain rfl := String.ofList_injective hsame
          exact hwritten.isPlain
        · intro hplain
          rw [Json.readQuoted_of_isPlain hplain] at hcs
          cases hcs
          rfl
      · exact ⟨fun hsame ↦ absurd hsame hscalar, fun hnone ↦ absurd rfl (hnone _)⟩
      · rintro value hvalue
        cases hvalue
        rfl
  | error fault =>
      refine ⟨inner, content, hcontent, ?_, hitem, hinner, ?_, ?_, ?_⟩
      · rw [Constant.emitted?_of_quoted hquoted, Descriptor.propertyJson, hread]
      · refine ⟨fun hsame ↦ absurd hsame.symm hinner, fun hplain ↦ ?_⟩
        have hvalue := (Json.ofText_quoted_eq_ok_iff hcontent).2
          ⟨inner, Json.readQuoted_of_isPlain hplain [], .inr ⟨rfl, hplain⟩, rfl⟩
        rw [hread] at hvalue
        cases hvalue
      · refine ⟨fun _ value hvalue ↦ ?_, fun _ ↦ rfl⟩
        cases hvalue
      · rintro value hvalue
        cases hvalue

namespace QuotedLabel

/-- An argument in quotes with nothing to escape between them. -/
def label : String := "\"orders\""

/-- The argument is emitted as the same string in both places. -/
theorem quotedArgument_emitted_label :
    isQuotedText label.toList ∧
    Constant.emitted? (.scalar (.string label)) = some (.string "orders") ∧
    Constant.emitted? (.array [.typeOf "Order", .scalar (.string label)]) =
      some (.strings ["orders"]) := by
  have hquoted : isQuotedText label.toList := by decide
  obtain ⟨inner, scalar, hlabel, hscalar, hitem, -, hplain, -⟩ := quotedArgument_emitted hquoted
  have hcontent : label.toList = '"' :: ("orders".toList ++ ['"']) := by decide
  rw [hlabel] at hcontent
  obtain rfl := List.append_cancel_right (List.cons.inj hcontent).2
  have horders : ∀ c ∈ "orders".toList, Json.IsPlain c := by simp [Json.IsPlain]
  rw [hplain.2 horders, String.ofList_toList] at hscalar
  have harray := hitem [.typeOf "Order"] []
  rw [String.ofList_toList] at harray
  exact ⟨hquoted, hscalar, harray⟩

/-- An argument with a quote between its quotes. -/
def unreadable : String := "\"a\"b\""

/-- The argument does not read: by itself it keeps its quotes, and in an array it loses them. -/
theorem exists_quoted_twice :
    isQuotedText unreadable.toList ∧
    Constant.emitted? (.scalar (.string unreadable)) = some (.string unreadable) ∧
    Constant.emitted? (.array [.scalar (.string unreadable)]) = some (.strings ["a\"b"]) := by
  have hcontent : unreadable.toList = '"' :: (['a', '"', 'b'] ++ ['"']) := by decide
  have hquoted := isQuotedText_iff.2 ⟨_, hcontent⟩
  refine ⟨hquoted, ?_, ?_⟩
  · rw [Constant.emitted?_of_quoted hquoted, Descriptor.propertyJson]
    cases hread : Json.ofText unreadable with
    | error fault => rfl
    | ok value =>
        obtain ⟨cs, hcs, -⟩ := (Json.ofText_quoted_eq_ok_iff hcontent).1 hread
        -- The string ends at the quote in the middle.
        have hmiddle : Json.readQuoted ['a', '"', 'b', '"'] = .ok (['a'], ['b', '"']) := rfl
        rw [List.cons_append, List.cons_append, List.cons_append, List.nil_append, hmiddle] at hcs
        cases hcs
  · have htext : Constant.text? (.scalar (.string unreadable)) = some (String.ofList _) :=
      Scalar.text?_of_quoted hcontent
    rw [Constant.emitted?_array, List.filterMap_cons_some htext]
    rfl

end QuotedLabel

end FunctionBindings
