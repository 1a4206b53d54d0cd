import FunctionBindings.Json.Doc.Parse
import FunctionBindings.Proofs.Json.Tokens

/-!
# Reading written values

The compact text of a value is read back as that value. Three things can stand in the way, and each
lemma asks for just the one that concerns it: numbers that are not written exactly (for the tokens),
nesting beyond the limit of the reader (for the document), and keys that repeat (for the value).
`ofText_compactText` puts them together; `document_compactText` says that already the document is
complete and has all members in their places, repeated or not.
-/

namespace FunctionBindings.Json

mutual

/-- How many arrays and objects are nested in one another. -/
def depth : Json → Nat
  | .array items => depthOfItems items + 1
  | .object members => depthOfMembers members + 1
  | _ => 0
termination_by structural value => value

/-- The depth of the deepest item. -/
def depthOfItems : List Json → Nat
  | [] => 0
  | item :: items => max (depth item) (depthOfItems items)
termination_by structural items => items

/-- The depth of the deepest member. -/
def depthOfMembers : List (String × Json) → Nat
  | [] => 0
  | (_, value) :: members => max (depth value) (depthOfMembers members)
termination_by structural members => members

end

mutual

/-- True of a value in which no object repeats a key. -/
def HasDistinctKeys : Json → Prop
  | .array items => HaveDistinctKeys items
  | .object members => (Entries.keys members).Nodup ∧ MembersHaveDistinctKeys members
  | _ => True
termination_by structural value => value

/-- True of items in which no object repeats a key. -/
def HaveDistinctKeys : List Json → Prop
  | [] => True
  | item :: items => HasDistinctKeys item ∧ HaveDistinctKeys items
termination_by structural items => items

/-- True of members in whose values no object repeats a key. -/
def MembersHaveDistinctKeys : List (String × Json) → Prop
  | [] => True
  | (_, value) :: members => HasDistinctKeys value ∧ MembersHaveDistinctKeys members
termination_by structural members => members

end

/-- Items are no deeper than a bound if none of them is. -/
theorem depthOfItems_le_iff {items : List Json} {bound : Nat} :
    depthOfItems items ≤ bound ↔ ∀ item ∈ items, item.depth ≤ bound := by
  induction items with
  | nil => simp [depthOfItems]
  | cons item items ih => simp only [depthOfItems, Nat.max_le, ih, List.forall_mem_cons]

/-- Members are no deeper than a bound if the value of none is. -/
theorem depthOfMembers_le_iff {members : List (String × Json)} {bound : Nat} :
    depthOfMembers members ≤ bound ↔ ∀ member ∈ members, member.2.depth ≤ bound := by
  induction members with
  | nil => simp [depthOfMembers]
  | cons member members ih => simp only [depthOfMembers, Nat.max_le, ih, List.forall_mem_cons]

/-- No object in items repeats a key if none in an item does. -/
theorem haveDistinctKeys_iff {items : List Json} :
    HaveDistinctKeys items ↔ ∀ item ∈ items, item.HasDistinctKeys := by
  induction items with
  | nil => simp [HaveDistinctKeys]
  | cons item items ih => simp [HaveDistinctKeys, ih]

/-- No object in members repeats a key if none in the value of a member does. -/
theorem membersHaveDistinctKeys_iff {members : List (String × Json)} :
    MembersHaveDistinctKeys members ↔ ∀ member ∈ members, member.2.HasDistinctKeys := by
  induction members with
  | nil => simp [MembersHaveDistinctKeys]
  | cons member members ih => simp [MembersHaveDistinctKeys, ih]

/-- A list of texts has no numbers. -/
theorem hasExactNumbers_strings (texts : List String) : (strings texts).HasExactNumbers := by
  refine haveExactNumbers_iff.2 fun item hitem ↦ ?_
  obtain ⟨text, -, rfl⟩ := List.mem_map.1 hitem
  trivial

/-- A list of texts has no objects. -/
theorem hasDistinctKeys_strings (texts : List String) : (strings texts).HasDistinctKeys := by
  refine haveDistinctKeys_iff.2 fun item hitem ↦ ?_
  obtain ⟨text, -, rfl⟩ := List.mem_map.1 hitem
  trivial

/-- A list of texts is one array deep. -/
theorem depth_strings (texts : List String) : (strings texts).depth = 1 := by
  have hitems : depthOfItems (texts.map .string) ≤ 0 := by
    refine depthOfItems_le_iff.2 fun item hitem ↦ ?_
    obtain ⟨text, -, rfl⟩ := List.mem_map.1 hitem
    exact Nat.le_refl 0
  show depthOfItems (texts.map .string) + 1 = 1
  omega

/-- Where the first item of an array is due, a value is taken in as anywhere else. -/
theorem foldl_step_firstItem (value : Json) (outer : List Frame) :
    value.toTokens.foldl State.step (.firstItem outer) =
      value.toTokens.foldl State.step (.value (.array [] :: outer)) := by
  cases value with
  | null | bool | number | string => rfl
  | array items => cases items <;> rfl
  | object members => cases members <;> rfl

/-- Where another item of an array is due, a value is taken in as anywhere else. -/
theorem foldl_step_nextItem (value : Json) (items : List Doc) (outer : List Frame) :
    value.toTokens.foldl State.step (.nextItem items outer) =
      value.toTokens.foldl State.step (.value (.array items :: outer)) := by
  cases value with
  | null | bool | number | string => rfl
  | array items => cases items <;> rfl
  | object members => cases members <;> rfl

mutual

/-- The document of a value that stands inside a number of arrays and objects. -/
def docAt : Json → Nat → Doc
  | .null, _ => .null
  | .bool b, _ => .bool b
  | .number n, _ => .number n
  | .string text, _ => .string text
  | .array items, level => .array (decide (depthLimit ≤ level)) (docsAt items (level + 1)) .closed
  | .object members, level =>
      .object (decide (depthLimit ≤ level)) (memberDocsAt members (level + 1)) .closed
termination_by structural value => value

/-- The documents of items that stand inside a number of arrays and objects. -/
def docsAt : List Json → Nat → List Doc
  | [], _ => []
  | item :: items, level => docAt item level :: docsAt items level
termination_by structural items => items

/-- The documents of members that stand inside a number of arrays and objects. -/
def memberDocsAt : List (String × Json) → Nat → List (Key × Doc)
  | [], _ => []
  | (key, value) :: members, level => (.named key, docAt value level) :: memberDocsAt members level
termination_by structural members => members

end

-- The frames in `outer` are open around the value, so their number is the level at which it stands.
mutual

/-- Where a value is due, the tokens of a value are taken in as its document. -/
theorem foldl_step_toTokens : ∀ (value : Json) (outer : List Frame),
    value.toTokens.foldl State.step (.value outer) = .put (docAt value outer.length) outer
  | .null, _ => rfl
  | .bool _, _ => rfl
  | .number _, _ => rfl
  | .string _, _ => rfl
  | .array [], _ => rfl
  | .array (item :: items), outer => by
      have hitem := foldl_step_toTokens item (.array [] :: outer)
      have hitems := foldl_step_laterItemTokens items [docAt item (outer.length + 1)] outer
      simp only [toTokens, List.foldl_cons, List.foldl_append, State.step, State.ofValue]
      rw [foldl_step_firstItem, hitem, State.put, List.length_cons, hitems]
      rfl
  | .object [], _ => rfl
  | .object ((key, value) :: members), outer => by
      have hvalue := foldl_step_toTokens value (.member [] (.named key) :: outer)
      have hmembers := foldl_step_laterMemberTokens members
        [(.named key, docAt value (outer.length + 1))] outer
      simp only [toTokens, List.foldl_cons, List.foldl_append, State.step, State.ofValue,
        State.ofKey]
      rw [hvalue, State.put, List.length_cons, hmembers]
      rfl

/-- After an item of an array, the tokens of further items are taken in up to its end. -/
theorem foldl_step_laterItemTokens : ∀ (items : List Json) (done : List Doc) (outer : List Frame),
    (laterItemTokens items).foldl State.step (.afterItem done outer) =
      .put (.array (isDeep outer) (done.reverse ++ docsAt items (outer.length + 1)) .closed) outer
  | [], done, outer => by
      simp [laterItemTokens, State.step, arrayIn, docsAt]
  | item :: items, done, outer => by
      have hitem := foldl_step_toTokens item (.array done :: outer)
      have hitems :=
        foldl_step_laterItemTokens items (docAt item (outer.length + 1) :: done) outer
      simp only [laterItemTokens, List.foldl_cons, List.foldl_append, State.step]
      rw [foldl_step_nextItem, hitem, State.put, List.length_cons, hitems]
      simp [docsAt]

/-- After a member of an object, the tokens of further members are taken in up to its end. -/
theorem foldl_step_laterMemberTokens :
    ∀ (members : List (String × Json)) (done : List (Key × Doc)) (outer : List Frame),
    (laterMemberTokens members).foldl State.step (.afterMember done outer) =
      .put (.object (isDeep outer) (done.reverse ++ memberDocsAt members (outer.length + 1))
        .closed) outer
  | [], done, outer => by
      simp [laterMemberTokens, State.step, objectIn, memberDocsAt]
  | (key, value) :: members, done, outer => by
      have hvalue := foldl_step_toTokens value (.member done (.named key) :: outer)
      have hmembers := foldl_step_laterMemberTokens members
        ((.named key, docAt value (outer.length + 1)) :: done) outer
      simp only [laterMemberTokens, List.foldl_cons, List.foldl_append, State.step, State.ofKey]
      rw [hvalue, State.put, List.length_cons, hmembers]
      simp [memberDocsAt]

end

/-- The document of a written value is complete, and marks what is nested too far. -/
theorem document_compactText_eq {value : Json} (hnumbers : value.HasExactNumbers) :
    Document.ofText value.compactText = ⟨docAt value 0, false⟩ := by
  have htokens := tokens_compact value [] hnumbers trivial
  have hsteps := foldl_step_toTokens value []
  have hend : tokens [] = [] := by rw [tokens]
  rw [List.append_nil, hend, List.append_nil] at htokens
  rw [Document.ofText, compactText, String.toList_ofList, htokens, Document.ofTokens, hsteps]
  rfl

mutual

/-- Nothing is marked in a value that leaves enough levels to what stands around it. -/
theorem docAt_of_depth_le : ∀ (value : Json) (level : Nat), value.depth + level ≤ depthLimit →
    docAt value level = toDoc value
  | .null, _, _ => rfl
  | .bool _, _, _ => rfl
  | .number _, _, _ => rfl
  | .string _, _, _ => rfl
  | .array items, level, h => by
      simp only [depth] at h
      have hdeep : decide (depthLimit ≤ level) = false := decide_eq_false (by omega)
      rw [docAt, hdeep, docsAt_of_depth_le items (level + 1) (by omega), toDoc]
  | .object members, level, h => by
      simp only [depth] at h
      have hdeep : decide (depthLimit ≤ level) = false := decide_eq_false (by omega)
      rw [docAt, hdeep, memberDocsAt_of_depth_le members (level + 1) (by omega), toDoc]

/-- Nothing is marked in items that leave enough levels. -/
theorem docsAt_of_depth_le : ∀ (items : List Json) (level : Nat),
    depthOfItems items + level ≤ depthLimit → docsAt items level = toDocs items
  | [], _, _ => rfl
  | item :: items, level, h => by
      simp only [depthOfItems] at h
      rw [docsAt, docAt_of_depth_le item level (by omega),
        docsAt_of_depth_le items level (by omega), toDocs]

/-- Nothing is marked in members that leave enough levels. -/
theorem memberDocsAt_of_depth_le : ∀ (members : List (String × Json)) (level : Nat),
    depthOfMembers members + level ≤ depthLimit → memberDocsAt members level = toMemberDocs members
  | [], _, _ => rfl
  | (key, value) :: members, level, h => by
      simp only [depthOfMembers] at h
      rw [memberDocsAt, docAt_of_depth_le value level (by omega),
        memberDocsAt_of_depth_le members level (by omega), toMemberDocs]

end

/-- The document of a written value is complete and is that of the value. -/
theorem document_compactText {value : Json} (hnumbers : value.HasExactNumbers)
    (hdepth : value.depth ≤ depthLimit) :
    Document.ofText value.compactText = ⟨toDoc value, false⟩ := by
  rw [document_compactText_eq hnumbers, docAt_of_depth_le value 0 hdepth]

mutual

/-- The document of a value has that value. -/
theorem value_toDoc : ∀ value : Json, value.HasDistinctKeys → (toDoc value).value = .ok value
  | .null, _ => rfl
  | .bool _, _ => rfl
  | .number _, _ => rfl
  | .string _, _ => rfl
  | .array items, h => by
      have hitems := values_toDocs items h
      simp [toDoc, Doc.value, refuseDeep, Ending.ofItems, hitems, bind, Except.bind, pure,
        Except.pure]
  | .object members, h => by
      obtain ⟨hkeys, hdistinct⟩ := h
      have hmembers := memberValues_toMemberDocs members hdistinct
      simp [toDoc, Doc.value, refuseDeep, Ending.ofMembers, hmembers, bind, Except.bind, pure,
        Except.pure, Entries.ofList_of_nodup hkeys]

/-- The documents of items have those items as their values. -/
theorem values_toDocs : ∀ items : List Json, HaveDistinctKeys items →
    Doc.values (toDocs items) = .ok items
  | [], _ => rfl
  | item :: items, h => by
      obtain ⟨hitem, hitems⟩ := h
      simp [toDocs, Doc.values, value_toDoc item hitem, values_toDocs items hitems, bind,
        Except.bind, pure, Except.pure]

/-- The documents of members have those members as their values. -/
theorem memberValues_toMemberDocs : ∀ members : List (String × Json),
    MembersHaveDistinctKeys members → Doc.memberValues (toMemberDocs members) = .ok members
  | [], _ => rfl
  | (key, value) :: members, h => by
      obtain ⟨hvalue, hmembers⟩ := h
      simp [toMemberDocs, Doc.memberValues, Key.name, value_toDoc value hvalue,
        memberValues_toMemberDocs members hmembers, bind, Except.bind, pure, Except.pure]

end

/-- The compact text of a value is read back as that value. -/
theorem ofText_compactText {value : Json} (hnumbers : value.HasExactNumbers)
    (hdepth : value.depth ≤ depthLimit) (hkeys : value.HasDistinctKeys) :
    ofText value.compactText = .ok value := by
  rw [ofText, document_compactText hnumbers hdepth]
  simp [Document.readWith, value_toDoc value hkeys, bind, Except.bind, pure, Except.pure]

end FunctionBindings.Json
