import FunctionBindings.Generation.Properties
import FunctionBindings.Proofs.Decimal.PlainText
import FunctionBindings.Proofs.Text.Joined

/-!
# Constants as texts and as property values

What is written for a constant, said for each kind of constant and without the functions that
compute it: its text (`Constant.HasText`), its value as a property (`Constant.RendersAs`), and the
key that a name becomes (`Text.IsCamelCase`). A constant has at most one text and one value, and the
functions find them (`Constant.text?_eq_some_iff`, `Constant.property?_eq_some_iff`,
`Text.camelCase_eq_iff`). Types and null are not rendered at all (`Constant.not_rendersAs_iff`).
-/

namespace FunctionBindings

section

variable {α β : Type} {R : α → β → Prop}

/-- `KeptBy R as bs` says that `bs` are the partners under `R` of those members of `as` that have
one, in order; the other members of `as` are dropped. -/
inductive KeptBy (R : α → β → Prop) : List α → List β → Prop where
  | nil : KeptBy R [] []
  | kept {a : α} {b : β} {as : List α} {bs : List β} :
      R a b → KeptBy R as bs → KeptBy R (a :: as) (b :: bs)
  | dropped {a : α} {as : List α} {bs : List β} :
      (∀ b, ¬ R a b) → KeptBy R as bs → KeptBy R (a :: as) bs

/-- What a partial function keeps of a list is related by its graph. -/
theorem keptBy_iff {f : α → Option β} (h : ∀ {a b}, f a = some b ↔ R a b) {as : List α}
    {bs : List β} : KeptBy R as bs ↔ as.filterMap f = bs := by
  constructor
  · intro hkept
    induction hkept with
    | nil => rfl
    | kept hrelated _ ih => rw [List.filterMap_cons_some (h.2 hrelated), ih]
    | dropped hnone _ ih =>
        rw [List.filterMap_cons_none (Option.eq_none_iff_forall_ne_some.2 fun b ↦ mt h.1 (hnone b)),
          ih]
  · rintro rfl
    induction as with
    | nil => exact .nil
    | cons a as ih =>
        cases hfound : f a with
        | none =>
            rw [List.filterMap_cons_none hfound]
            refine .dropped (fun b hrelated ↦ ?_) ih
            rw [h.2 hrelated] at hfound
            cases hfound
        | some b =>
            rw [List.filterMap_cons_some hfound]
            exact .kept (h.1 hfound) ih

end

namespace Text

/-- Behind a dot, the characters of a last segment are found. -/
theorem lastSegmentChars_append {last : List Char} (h : '.' ∉ last) (path : List Char) :
    lastSegmentChars (path ++ '.' :: last) = last := by
  have hall : ∀ c ∈ last.reverse, decide (c ≠ '.') = true := by
    intro c hc
    rw [decide_eq_true_eq]
    rintro rfl
    exact h (List.mem_reverse.1 hc)
  rw [lastSegmentChars, List.reverse_append, List.reverse_cons, List.append_assoc,
    List.takeWhile_append_of_pos hall]
  simp

/-- The last segment of a name is what stands behind its last dot, or the whole name. -/
theorem lastSegment_eq_iff {name last : String} :
    lastSegment name = last ↔
      '.' ∉ last.toList ∧ (name = last ∨ ∃ path, name = path ++ "." ++ last) := by
  have hjoined (path : String) :
      (path ++ "." ++ last).toList = path.toList ++ '.' :: last.toList :=
    toList_joined rfl path last
  rw [lastSegment, ← String.toList_inj, String.toList_ofList]
  constructor
  · intro hlast
    refine ⟨hlast ▸ dot_notMem_lastSegmentChars name.toList, ?_⟩
    by_cases hdot : '.' ∈ name.toList.reverse
    · -- The first dot from behind ends the last segment.
      obtain ⟨front, back, hsplit, hfront⟩ := List.eq_append_cons_of_mem hdot
      have hname : name.toList = back.reverse ++ '.' :: front.reverse := by
        rw [← List.reverse_reverse name.toList, hsplit, List.reverse_append, List.reverse_cons,
          List.append_assoc, List.singleton_append]
      have hbehind : lastSegmentChars name.toList = front.reverse :=
        hname ▸ lastSegmentChars_append (fun hmem ↦ hfront (List.mem_reverse.1 hmem)) back.reverse
      refine .inr ⟨String.ofList back.reverse, String.toList_inj.1 ?_⟩
      rw [hjoined, String.toList_ofList, hname, ← hlast, hbehind]
    · have hplain : '.' ∉ name.toList := fun hmem ↦ hdot (List.mem_reverse.2 hmem)
      exact .inl (String.toList_inj.1 (lastSegmentChars_of_notMem hplain ▸ hlast))
  · rintro ⟨hplain, rfl | ⟨path, rfl⟩⟩
    · exact lastSegmentChars_of_notMem hplain
    · rw [hjoined, lastSegmentChars_append hplain]

/-- `IsLowercase c lower` says that these characters are the lower-case form of a character: the
small letter within ASCII, two characters for the capital I with a dot above, the character at the
distance of its run, or the character itself if it belongs to no run. -/
inductive IsLowercase (c : Char) : List Char → Prop where
  | ascii : c.toNat < 0x80 → IsLowercase c [c.toLower]
  | dotted : c.toNat = 0x130 → IsLowercase c ['i', Char.ofNat 0x307]
  | run {run : CaseRun} :
      0x80 ≤ c.toNat → c.toNat ≠ 0x130 → caseRun? c.toNat = some run →
      IsLowercase c [Char.ofNat (c.toNat + run.distance).toNat]
  | same : 0x80 ≤ c.toNat → c.toNat ≠ 0x130 → caseRun? c.toNat = none → IsLowercase c [c]

/-- A character has one lower-case form. -/
theorem lowercase_eq_iff {c : Char} {lower : List Char} :
    lowercase c = lower ↔ IsLowercase c lower := by
  unfold lowercase
  constructor
  · rintro rfl
    split
    · rename_i hascii
      exact .ascii hascii
    · rename_i hbeyond
      split
      · rename_i hdotted
        exact .dotted hdotted
      · rename_i hplain
        split
        · rename_i run hrun
          exact .run (Nat.le_of_not_lt hbeyond) hplain hrun
        · rename_i hnone
          exact .same (Nat.le_of_not_lt hbeyond) hplain hnone
  · intro hlower
    cases hlower with
    | ascii hascii => rw [if_pos hascii]
    | dotted hdotted => rw [if_neg (by omega), if_pos hdotted]
    | run hbeyond hplain hrun => rw [if_neg (by omega), if_neg hplain, hrun]
    | same hbeyond hplain hnone => rw [if_neg (by omega), if_neg hplain, hnone]

/-- `IsCamelCase name key` says that the key is the name with its first character in lower case. -/
inductive IsCamelCase : String → String → Prop where
  | empty : IsCamelCase "" ""
  | cons {first : Char} {rest lower : List Char} :
      IsLowercase first lower →
      IsCamelCase (String.ofList (first :: rest)) (String.ofList (lower ++ rest))

/-- A name has one key. -/
theorem camelCase_eq_iff {name key : String} : camelCase name = key ↔ IsCamelCase name key := by
  constructor
  · rintro rfl
    unfold camelCase
    split
    · rename_i hname
      rw [String.toList_eq_nil_iff] at hname
      exact hname ▸ .empty
    · rename_i first rest hname
      have hcase : IsCamelCase (String.ofList (first :: rest))
          (String.ofList (lowercase first ++ rest)) := .cons (lowercase_eq_iff.1 rfl)
      rwa [← hname, String.ofList_toList] at hcase
  · intro hcase
    cases hcase with
    | empty => rfl
    | cons hlower => simp only [camelCase, String.toList_ofList, lowercase_eq_iff.2 hlower]

end Text

/-- The text of a string in quotes is what stands between them. -/
theorem Scalar.text?_of_quoted {content : String} {inner : List Char}
    (h : content.toList = '"' :: (inner ++ ['"'])) :
    text? (.string content) = some (String.ofList inner) := by
  have hquoted : isQuotedText content.toList := isQuotedText_iff.2 ⟨inner, h⟩
  have hinner : unquotedText content.toList = inner := by
    rw [h, unquotedText, List.tail_cons, List.dropLast_concat]
  simp only [text?, hquoted, hinner, if_true]

namespace Constant

/-- `HasText constant text` says that the text is what is written for the constant where a plain
text is due: a string without the quotes that may stand around it, a truth value, an integer, a
double in plain notation, or the last segment of a member's name. -/
inductive HasText : Constant → String → Prop where
  | quoted {content inner : String} :
      content = "\"" ++ inner ++ "\"" → HasText (.scalar (.string content)) inner
  | plain {content : String} :
      (∀ inner, content ≠ "\"" ++ inner ++ "\"") → HasText (.scalar (.string content)) content
  | bool (value : Bool) : HasText (.scalar (.bool value)) (toString value)
  | int (n : Int64) : HasText (.scalar (.int n)) (toString n.toInt)
  | float {x : Float} {text : String} :
      Decimal.IsPlain x text → HasText (.scalar (.float x)) text
  | member {name last : String} :
      '.' ∉ last.toList → (name = last ∨ ∃ path, name = path ++ "." ++ last) →
      HasText (.member name) last

/-- `RendersAs constant value` says that the value is the constant as a property: a string in quotes
is a literal, an array is the list of the texts that its items have, and everything else is its
text. -/
inductive RendersAs : Constant → PropertyValue → Prop where
  | literal {content inner : String} :
      content = "\"" ++ inner ++ "\"" → RendersAs (.scalar (.string content)) (.literal content)
  | text {constant : Constant} {text : String} :
      (∀ inner, constant ≠ .string ("\"" ++ inner ++ "\"")) → HasText constant text →
      RendersAs constant (.text text)
  | list {items : List Constant} {texts : List String} :
      KeptBy HasText items texts → RendersAs (.array items) (.list texts)

/-- The characters of a text in quotes. -/
theorem toList_quoted (inner : String) :
    ("\"" ++ inner ++ "\"").toList = '"' :: (inner.toList ++ ['"']) := by
  rw [String.toList_append, String.toList_append]
  rfl

/-- A string is in quotes if it is made of two of them and of a text between them. -/
theorem isQuotedText_toList_iff {content : String} :
    isQuotedText content.toList ↔ ∃ inner, content = "\"" ++ inner ++ "\"" := by
  rw [isQuotedText_iff]
  constructor
  · rintro ⟨inner, hcontent⟩
    refine ⟨String.ofList inner, String.toList_inj.1 ?_⟩
    rw [hcontent, toList_quoted, String.toList_ofList]
  · rintro ⟨inner, rfl⟩
    exact ⟨inner.toList, toList_quoted inner⟩

/-- A text in quotes loses them as a constant. -/
theorem text?_quoted (inner : String) :
    (scalar (.string ("\"" ++ inner ++ "\""))).text? = some inner := by
  rw [text?, Scalar.text?_of_quoted (toList_quoted inner), String.ofList_toList]

/-- The text of a string without quotes around it is the string. -/
theorem text?_plain {content : String} (h : ∀ inner, content ≠ "\"" ++ inner ++ "\"") :
    (scalar (.string content)).text? = some content := by
  have hplain : ¬ isQuotedText content.toList := fun hquoted ↦
    let ⟨inner, hinner⟩ := isQuotedText_toList_iff.1 hquoted
    h inner hinner
  rw [text?, Scalar.text?, if_neg hplain]

/-- A constant has one text or none. -/
theorem text?_eq_some_iff {constant : Constant} {text : String} :
    constant.text? = some text ↔ constant.HasText text := by
  constructor
  · intro htext
    cases constant with
    | scalar value =>
        cases value with
        | string content =>
            by_cases hquoted : ∃ inner, content = "\"" ++ inner ++ "\""
            · obtain ⟨inner, rfl⟩ := hquoted
              obtain rfl := Option.some.inj ((text?_quoted inner).symm.trans htext)
              exact .quoted rfl
            · rw [not_exists] at hquoted
              obtain rfl := Option.some.inj ((text?_plain hquoted).symm.trans htext)
              exact .plain hquoted
        | bool value =>
            cases value <;> obtain rfl := Option.some.inj htext <;> exact .bool _
        | int n =>
            obtain rfl := Option.some.inj htext
            rw [Decimal.ofList_intText]
            exact .int n
        | float x =>
            exact .float (Decimal.plainText_eq_iff.1 (Option.some.inj htext))
        | null => cases htext
    | member name =>
        obtain ⟨hplain, hname⟩ := Text.lastSegment_eq_iff.1 (Option.some.inj htext)
        exact .member hplain hname
    | typeOf | array => cases htext
  · intro htext
    cases htext with
    | quoted hcontent => rw [hcontent, text?_quoted]
    | plain hplain => exact text?_plain hplain
    | bool value => cases value <;> rfl
    | int n => rw [text?, Scalar.text?, Decimal.ofList_intText]
    | float hplain => exact congrArg some (Decimal.plainText_eq_iff.2 hplain)
    | member hplain hname => exact congrArg some (Text.lastSegment_eq_iff.2 ⟨hplain, hname⟩)

/-- A string in quotes is its own value. -/
theorem property?_quoted (inner : String) :
    (string ("\"" ++ inner ++ "\"")).property? = some (.literal ("\"" ++ inner ++ "\"")) :=
  if_pos (isQuotedText_toList_iff.2 ⟨inner, rfl⟩)

/-- What is neither a string in quotes nor an array has its text as its value. -/
theorem property?_of_plain {constant : Constant}
    (hquoted : ∀ inner, constant ≠ .string ("\"" ++ inner ++ "\""))
    (harray : ∀ items, constant ≠ .array items) :
    constant.property? = constant.text?.map .text := by
  cases constant with
  | scalar value =>
      cases value with
      | string content =>
          have hplain : ∀ inner, content ≠ "\"" ++ inner ++ "\"" := fun inner hcontent ↦
            hquoted inner (congrArg string hcontent)
          rw [text?_plain hplain, property?,
            if_neg (fun h ↦ not_exists.2 hplain (isQuotedText_toList_iff.1 h))]
          rfl
      | bool | int | float | null => rfl
  | member | typeOf => rfl
  | array items => exact absurd rfl (harray items)

/-- A constant has one value or none. -/
theorem property?_eq_some_iff {constant : Constant} {value : PropertyValue} :
    constant.property? = some value ↔ constant.RendersAs value := by
  constructor
  · intro hvalue
    by_cases hquoted : ∃ inner, constant = .string ("\"" ++ inner ++ "\"")
    · obtain ⟨inner, rfl⟩ := hquoted
      obtain rfl := Option.some.inj ((property?_quoted inner).symm.trans hvalue)
      exact .literal rfl
    by_cases harray : ∃ items, constant = .array items
    · obtain ⟨items, rfl⟩ := harray
      obtain rfl := Option.some.inj hvalue
      exact .list ((keptBy_iff text?_eq_some_iff).2 rfl)
    rw [not_exists] at hquoted harray
    rw [property?_of_plain hquoted harray, Option.map_eq_some_iff] at hvalue
    obtain ⟨text, htext, rfl⟩ := hvalue
    exact .text hquoted (text?_eq_some_iff.1 htext)
  · intro hrenders
    cases hrenders with
    | @literal content inner hcontent => exact hcontent ▸ property?_quoted inner
    | text hquoted htext =>
        have harray : ∀ items, constant ≠ .array items := by
          rintro items rfl
          cases htext
        rw [property?_of_plain hquoted harray, text?_eq_some_iff.2 htext]
        rfl
    | list hitems =>
        have htexts := (keptBy_iff text?_eq_some_iff).1 hitems
        rw [property?, htexts]

end Constant

end FunctionBindings
