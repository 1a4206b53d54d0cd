import FunctionBindings.Proofs.Json.CutText
import FunctionBindings.Proofs.Json.RoundTrip
import FunctionBindings.Proofs.Tables

/-!
# Values that were read

What is known of a value because a text was read as it: it nests no further than the reader allows,
no object repeats a key, and its integers fit 64 bits. The first and the last of these hold of the
document already (`Doc.FitsAt`), as an invariant of the states that the tokens of the text are taken
in by; the keys are those that are left when the members have been entered. Main statement:
`isReadAt_of_ofText`.
-/

namespace FunctionBindings.Json

/-- A value occurs in itself, and in whatever has it in an item or in the value of a member. -/
inductive Occurs (part : Json) : Json → Prop where
  | here : Occurs part part
  | item {items : List Json} {item : Json} (hmem : item ∈ items) (hin : Occurs part item) :
      Occurs part (.array items)
  | member {members : List (String × Json)} {member : String × Json} (hmem : member ∈ members)
      (hin : Occurs part member.2) : Occurs part (.object members)

/-- True of doubles and of the integers that fit 64 bits, signed or unsigned. -/
def Number.IsStored : Number → Prop
  | .int n => -Decimal.signedLimit ≤ n ∧ n < Decimal.unsignedLimit
  | .float _ => True

/-- A numeral has a value that is stored. -/
theorem isStored_of_value? {numeral : Numeral} {value : Number} (h : numeral.value? = some value) :
    value.IsStored := by
  have hdouble {signed : Float → Float}
      (hvalue : (numeral.abs?.map fun x ↦ .float (signed x)) = some value) : value.IsStored := by
    obtain ⟨x, -, rfl⟩ := Option.map_eq_some_iff.1 hvalue
    trivial
  unfold Numeral.value? at h
  dsimp only at h
  split at h
  · split at h
    · split at h
      · rename_i hrange
        cases h
        show -(Decimal.signedLimit : Int) ≤ _ ∧ _ < (Decimal.unsignedLimit : Int)
        omega
      · exact hdouble h
    · split at h
      · rename_i hrange
        cases h
        show -(Decimal.signedLimit : Int) ≤ _ ∧ _ < (Decimal.unsignedLimit : Int)
        omega
      · exact hdouble h
  · exact hdouble h

mutual

/-- True of a document that can stand inside a number of open arrays and objects: its numbers are
stored, and what is nested too far is marked. -/
def Doc.FitsAt : Doc → Nat → Prop
  | .number n, _ => n.IsStored
  | .array deep items _, level => (deep = false → level < depthLimit) ∧ Doc.FitAt items (level + 1)
  | .object deep members _, level =>
      (deep = false → level < depthLimit) ∧ Doc.MembersFitAt members (level + 1)
  | _, _ => True
termination_by structural doc => doc

/-- True of items that can stand inside a number of open arrays and objects. -/
def Doc.FitAt : List Doc → Nat → Prop
  | [], _ => True
  | item :: items, level => Doc.FitsAt item level ∧ Doc.FitAt items level
termination_by structural items => items

/-- True of members whose values can stand inside a number of open arrays and objects. -/
def Doc.MembersFitAt : List (Key × Doc) → Nat → Prop
  | [], _ => True
  | (_, value) :: members, level => Doc.FitsAt value level ∧ Doc.MembersFitAt members level
termination_by structural members => members

end

/-- Items fit if each does. -/
theorem Doc.fitAt_iff {items : List Doc} {level : Nat} :
    Doc.FitAt items level ↔ ∀ item ∈ items, item.FitsAt level := by
  induction items with
  | nil => simp [Doc.FitAt]
  | cons item items ih => simp [Doc.FitAt, ih]

/-- Members fit if the value of each does. -/
theorem Doc.membersFitAt_iff {members : List (Key × Doc)} {level : Nat} :
    Doc.MembersFitAt members level ↔ ∀ member ∈ members, member.2.FitsAt level := by
  induction members with
  | nil => simp [Doc.MembersFitAt]
  | cons member members ih => simp [Doc.MembersFitAt, ih]

/-- True of frames that are open around one another and hold documents that fit there. -/
def FramesFit : List Frame → Prop
  | [] => True
  | .array items :: outer => Doc.FitAt items (outer.length + 1) ∧ FramesFit outer
  | .member members _ :: outer => Doc.MembersFitAt members (outer.length + 1) ∧ FramesFit outer

/-- True of a state that holds documents that fit where they stand. -/
def State.Fits : State → Prop
  | .value outer | .firstItem outer | .firstKey outer => FramesFit outer
  | .nextItem items outer | .afterItem items outer =>
      Doc.FitAt items (outer.length + 1) ∧ FramesFit outer
  | .nextKey members outer | .colon members _ outer | .afterMember members outer =>
      Doc.MembersFitAt members (outer.length + 1) ∧ FramesFit outer
  | .complete doc | .trailing doc | .stopped doc => doc.FitsAt 0

variable {outer : List Frame} {items : List Doc} {members : List (Key × Doc)}

/-- An array of items that fit inside it fits among the open frames. -/
theorem fitsAt_arrayIn (ending : Ending) (hitems : Doc.FitAt items (outer.length + 1)) :
    (arrayIn outer items ending).FitsAt outer.length := by
  refine ⟨fun hdeep ↦ by simpa [isDeep] using hdeep, ?_⟩
  rw [Doc.fitAt_iff] at hitems ⊢
  simpa using hitems

/-- An object of members that fit inside it fits among the open frames. -/
theorem fitsAt_objectIn (ending : Ending) (hmembers : Doc.MembersFitAt members (outer.length + 1)) :
    (objectIn outer members ending).FitsAt outer.length := by
  refine ⟨fun hdeep ↦ by simpa [isDeep] using hdeep, ?_⟩
  rw [Doc.membersFitAt_iff] at hmembers ⊢
  simpa using hmembers

/-- A document that breaks off fits with the frames around it. -/
theorem fitsAt_enclose {doc : Doc} (hdoc : doc.FitsAt outer.length) (houter : FramesFit outer) :
    (enclose doc outer).FitsAt 0 := by
  induction outer generalizing doc with
  | nil => exact hdoc
  | cons frame outer ih =>
      cases frame with
      | array items => exact ih (fitsAt_arrayIn _ ⟨hdoc, houter.1⟩) houter.2
      | member members key => exact ih (fitsAt_objectIn _ ⟨hdoc, houter.1⟩) houter.2

/-- The state after a complete value fits. -/
theorem fits_put {doc : Doc} (hdoc : doc.FitsAt outer.length) (houter : FramesFit outer) :
    (State.put doc outer).Fits := by
  cases outer with
  | nil => exact hdoc
  | cons frame outer =>
      cases frame with
      | array items => exact ⟨⟨hdoc, houter.1⟩, houter.2⟩
      | member members key => exact ⟨⟨hdoc, houter.1⟩, houter.2⟩

/-- True of a token whose document, if it has one, fits everywhere. -/
def Token.Fits : Token → Prop
  | .scalar doc => ∀ level, doc.FitsAt level
  | _ => True

/-- The tokens of a text fit. -/
theorem fits_of_mem_tokens {text : List Char} : ∀ token ∈ tokens text, token.Fits := by
  intro token htoken
  cases token with
  | scalar doc =>
      obtain rfl | ⟨value, rfl⟩ | rfl | ⟨numeral, value, hvalue, rfl⟩ :=
        scalar_of_mem_tokens htoken
      · exact fun level ↦ trivial
      · exact fun level ↦ trivial
      · exact fun level ↦ trivial
      · exact fun level ↦ isStored_of_value? hvalue
  | _ => trivial

/-- The state after a token where a value is due fits. -/
theorem fits_ofValue {token : Token} (htoken : token.Fits) (houter : FramesFit outer) :
    (State.ofValue outer token).Fits := by
  cases token with
  | openArray | openObject => exact houter
  | text key => exact fits_put (by cases key <;> trivial) houter
  | scalar doc => exact fits_put (htoken outer.length) houter
  | _ => exact fitsAt_enclose trivial houter

/-- The state after a token where a key is due fits. -/
theorem fits_ofKey (token : Token) (hmembers : Doc.MembersFitAt members (outer.length + 1))
    (houter : FramesFit outer) : (State.ofKey members outer token).Fits := by
  cases token with
  | text key => exact ⟨hmembers, houter⟩
  | _ => exact fitsAt_enclose (fitsAt_objectIn _ hmembers) houter

/-- A state that fits is followed by a state that fits. -/
theorem fits_step {state : State} {token : Token} (h : state.Fits) (htoken : token.Fits) :
    (state.step token).Fits := by
  unfold State.step
  split
  all_goals first
    | exact h
    | exact fits_ofValue htoken h
    | exact fits_ofKey _ h.1 h.2
    | exact fits_ofKey _ trivial h
    | exact fits_put (fitsAt_arrayIn _ h.1) h.2
    | exact fits_put (fitsAt_arrayIn _ trivial) h
    | exact fits_put (fitsAt_objectIn _ h.1) h.2
    | exact fits_put (fitsAt_objectIn _ trivial) h
    | exact fits_ofValue htoken ⟨trivial, h⟩
    | exact fitsAt_enclose (fitsAt_arrayIn _ h.1) h.2
    | exact fitsAt_enclose (fitsAt_objectIn _ h.1) h.2
    | exact fitsAt_enclose trivial h

/-- The state after the tokens of a text fits. -/
theorem fits_foldl_step {state : State} {later : List Token} (h : state.Fits)
    (hlater : ∀ token ∈ later, token.Fits) : (later.foldl State.step state).Fits := by
  induction later generalizing state with
  | nil => exact h
  | cons token later ih =>
      obtain ⟨htoken, hrest⟩ := List.forall_mem_cons.1 hlater
      exact ih (fits_step h htoken) hrest

/-- The document of a text that ends in a state that fits. -/
theorem fitsAt_finish {state : State} (h : state.Fits) : state.finish.doc.FitsAt 0 := by
  cases state with
  | value outer => exact fitsAt_enclose trivial h
  | firstItem outer => exact fitsAt_enclose (fitsAt_arrayIn .cut trivial) h
  | nextItem items outer => exact fitsAt_enclose (fitsAt_arrayIn .commaCut h.1) h.2
  | afterItem items outer => exact fitsAt_enclose (fitsAt_arrayIn .cut h.1) h.2
  | firstKey outer => exact fitsAt_enclose (fitsAt_objectIn .cut trivial) h
  | nextKey members outer => exact fitsAt_enclose (fitsAt_objectIn .commaCut h.1) h.2
  | colon members key outer =>
      have houter : FramesFit (.member members key :: outer) := h
      exact fitsAt_enclose trivial houter
  | afterMember members outer => exact fitsAt_enclose (fitsAt_objectIn .cut h.1) h.2
  | complete doc | trailing doc | stopped doc => exact h

/-- The document of a text fits. -/
theorem fitsAt_ofText (text : String) : (Document.ofText text).doc.FitsAt 0 := by
  have hstart : (State.value []).Fits := trivial
  exact fitsAt_finish (fits_foldl_step hstart fits_of_mem_tokens)

/-- What is known of a value that was read inside a number of arrays and objects. -/
structure IsReadAt (value : Json) (level : Nat) : Prop where
  depth_le : value.depth ≤ depthLimit - level
  hasDistinctKeys : value.HasDistinctKeys
  isStored : ∀ n, Occurs (.number n) value → n.IsStored

/-- A text that was read. -/
theorem isReadAt_string (text : String) (level : Nat) : (string text).IsReadAt level :=
  ⟨Nat.zero_le _, trivial, fun n hin ↦ by cases hin⟩

/-- An array of values that were read inside it, where the reader allows one. -/
theorem isReadAt_array {items : List Json} {level : Nat} (hlevel : level < depthLimit)
    (hitems : ∀ item ∈ items, item.IsReadAt (level + 1)) : (array items).IsReadAt level where
  depth_le := by
    have hdepth := depthOfItems_le_iff.2 fun item hitem ↦ (hitems item hitem).depth_le
    simp only [depth]
    omega
  hasDistinctKeys := haveDistinctKeys_iff.2 fun item hitem ↦ (hitems item hitem).hasDistinctKeys
  isStored := by
    intro n hin
    cases hin with
    | item hmem hin => exact (hitems _ hmem).isStored n hin

/-- An object of values that were read inside it, where the reader allows one. -/
theorem isReadAt_object {members : List (String × Json)} {level : Nat} (hlevel : level < depthLimit)
    (hkeys : (Entries.keys members).Nodup)
    (hmembers : ∀ member ∈ members, member.2.IsReadAt (level + 1)) :
    (object members).IsReadAt level where
  depth_le := by
    have hdepth := depthOfMembers_le_iff.2 fun member hmem ↦ (hmembers member hmem).depth_le
    simp only [depth]
    omega
  hasDistinctKeys :=
    ⟨hkeys, membersHaveDistinctKeys_iff.2 fun member hmem ↦ (hmembers member hmem).hasDistinctKeys⟩
  isStored := by
    intro n hin
    cases hin with
    | member hmem hin => exact (hmembers _ hmem).isStored n hin

/-- An array or object that is not refused is not too deep. -/
theorem eq_false_of_refuseDeep {deep : Bool} {result : Unit} (h : refuseDeep deep = .ok result) :
    deep = false := by
  cases deep with
  | false => rfl
  | true => cases h

mutual

/-- The value of a document that fits where it stands. -/
theorem isReadAt_of_value : ∀ (doc : Doc) (level : Nat) (value : Json), doc.FitsAt level →
    doc.value = .ok value → value.IsReadAt level
  | .null, level, value, _, hvalue => by
      cases hvalue
      exact ⟨Nat.zero_le _, trivial, fun n hin ↦ by cases hin⟩
  | .bool b, level, value, _, hvalue => by
      cases hvalue
      exact ⟨Nat.zero_le _, trivial, fun n hin ↦ by cases hin⟩
  | .number n, level, value, hfits, hvalue => by
      cases hvalue
      refine ⟨Nat.zero_le _, trivial, fun other hin ↦ ?_⟩
      cases hin
      exact hfits
  | .string text, level, value, _, hvalue => by
      cases hvalue
      exact isReadAt_string text level
  | .array deep items ending, level, value, hfits, hvalue => by
      obtain ⟨_, hdeep, hvalue⟩ := exists_of_bind_eq_ok hvalue
      obtain ⟨values, hitems, hvalue⟩ := exists_of_bind_eq_ok hvalue
      obtain ⟨_, -, hvalue⟩ := exists_of_bind_eq_ok hvalue
      cases hvalue
      exact isReadAt_array (hfits.1 (eq_false_of_refuseDeep hdeep))
        (isReadAt_of_values items (level + 1) values hfits.2 hitems)
  | .object deep members ending, level, value, hfits, hvalue => by
      obtain ⟨_, hdeep, hvalue⟩ := exists_of_bind_eq_ok hvalue
      obtain ⟨values, hmembers, hvalue⟩ := exists_of_bind_eq_ok hvalue
      obtain ⟨_, -, hvalue⟩ := exists_of_bind_eq_ok hvalue
      cases hvalue
      have hread := isReadAt_of_memberValues members (level + 1) values hfits.2 hmembers
      exact isReadAt_object (hfits.1 (eq_false_of_refuseDeep hdeep))
        (Entries.nodup_keys_ofList values)
        fun member hmem ↦ hread member (Entries.mem_of_mem_ofList hmem)
  | .beyond, _, _, _, hvalue | .flawed _, _, _, _, hvalue | .broken _ _, _, _, _, hvalue
  | .brokenScalar _ _, _, _, _, hvalue => by cases hvalue

/-- The values of items that fit where they stand. -/
theorem isReadAt_of_values : ∀ (items : List Doc) (level : Nat) (values : List Json),
    Doc.FitAt items level → Doc.values items = .ok values → ∀ value ∈ values, value.IsReadAt level
  | [], level, values, _, hvalues => by
      cases hvalues
      exact List.forall_mem_nil _
  | item :: items, level, values, hfit, hvalues => by
      obtain ⟨value, hvalue, hvalues⟩ := exists_of_bind_eq_ok hvalues
      obtain ⟨later, hlater, hvalues⟩ := exists_of_bind_eq_ok hvalues
      cases hvalues
      exact List.forall_mem_cons.2 ⟨isReadAt_of_value item level value hfit.1 hvalue,
        isReadAt_of_values items level later hfit.2 hlater⟩

/-- The values of members that fit where they stand. -/
theorem isReadAt_of_memberValues : ∀ (members : List (Key × Doc)) (level : Nat)
    (values : List (String × Json)), Doc.MembersFitAt members level →
    Doc.memberValues members = .ok values → ∀ member ∈ values, member.2.IsReadAt level
  | [], level, values, _, hvalues => by
      cases hvalues
      exact List.forall_mem_nil _
  | (key, doc) :: members, level, values, hfit, hvalues => by
      obtain ⟨name, -, hvalues⟩ := exists_of_bind_eq_ok hvalues
      obtain ⟨value, hvalue, hvalues⟩ := exists_of_bind_eq_ok hvalues
      obtain ⟨later, hlater, hvalues⟩ := exists_of_bind_eq_ok hvalues
      cases hvalues
      exact List.forall_mem_cons.2 ⟨isReadAt_of_value doc level value hfit.1 hvalue,
        isReadAt_of_memberValues members level later hfit.2 hlater⟩

end

/-- A value that was read from a text nests no further than the reader allows, repeats no key, and
has only numbers that are stored. -/
theorem isReadAt_of_ofText {text : String} {value : Json} (h : ofText text = .ok value) :
    value.IsReadAt 0 :=
  isReadAt_of_value _ 0 value (fitsAt_ofText text) (Document.readWith_eq_ok_iff.1 h).1

mutual

/-- A value is written exactly if the numbers in it are. -/
theorem hasExactNumbers_of_occurs : ∀ value : Json,
    (∀ n, Occurs (.number n) value → n.IsExact) → value.HasExactNumbers
  | .null, _ | .bool _, _ | .string _, _ => trivial
  | .number n, h => h n .here
  | .array items, h => haveExactNumbers_of_occurs items fun _ hitem n hin ↦ h n (.item hitem hin)
  | .object members, h =>
      membersHaveExactNumbers_of_occurs members fun _ hmem n hin ↦ h n (.member hmem hin)

/-- Items are written exactly if the numbers in them are. -/
theorem haveExactNumbers_of_occurs : ∀ items : List Json,
    (∀ item ∈ items, ∀ n, Occurs (.number n) item → n.IsExact) → HaveExactNumbers items
  | [], _ => trivial
  | item :: items, h =>
      ⟨hasExactNumbers_of_occurs item fun n hin ↦ h item (by simp) n hin,
        haveExactNumbers_of_occurs items fun other hother ↦ h other (List.mem_cons_of_mem item hother)⟩

/-- Members are written exactly if the numbers in their values are. -/
theorem membersHaveExactNumbers_of_occurs : ∀ members : List (String × Json),
    (∀ member ∈ members, ∀ n, Occurs (.number n) member.2 → n.IsExact) →
      MembersHaveExactNumbers members
  | [], _ => trivial
  | (key, value) :: members, h =>
      ⟨hasExactNumbers_of_occurs value fun n hin ↦ h (key, value) (by simp) n hin,
        membersHaveExactNumbers_of_occurs members fun other hother ↦
          h other (List.mem_cons_of_mem (key, value) hother)⟩

end

/-- The numbers in a value that is written exactly. -/
theorem isExact_of_occurs {value : Json} {n : Number} (h : value.HasExactNumbers)
    (hin : Occurs (.number n) value) : n.IsExact := by
  induction hin with
  | here => exact h
  | item hmem _ ih => exact ih (haveExactNumbers_iff.1 h _ hmem)
  | member hmem _ ih => exact ih (membersHaveExactNumbers_iff.1 h _ hmem)

/-- A value that was read and has no doubles in it is written exactly. -/
theorem IsReadAt.hasExactNumbers {value : Json} {level : Nat} (h : value.IsReadAt level)
    (hfloat : ∀ x, ¬ Occurs (.number (.float x)) value) : value.HasExactNumbers := by
  refine hasExactNumbers_of_occurs value fun n hin ↦ ?_
  have hstored := h.isStored n hin
  cases n with
  | int n => exact hstored
  | float x => exact absurd hin (hfloat x)

end FunctionBindings.Json
