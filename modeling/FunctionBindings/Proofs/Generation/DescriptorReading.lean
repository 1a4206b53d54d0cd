import FunctionBindings.Proofs.Generation.DescriptorText
import FunctionBindings.Proofs.Json.DeepValues
import FunctionBindings.Proofs.Json.ReadValues

/-!
# Reading descriptors back

A descriptor can hold more than the arguments of an attribute make: texts under any keys, its own
included, and literals that read as any value. Its text is read back as what was written, and so it
is listed in columns, unless a literal nests as far as the reader allows: the writer has no such
limit, and inside the descriptor the literal is nested once more. Main statement:
`descriptorText_readsBack`.
-/

namespace FunctionBindings

/-- True of a literal that reads as a value. -/
def PropertyValue.IsLiteralOf (property : PropertyValue) (value : Json) : Prop :=
  ∃ content, property = .literal content ∧ Json.ofText content = .ok value

/-- A text that reads is a literal of nothing else. -/
theorem PropertyValue.isLiteralOf_literal_iff {content : String} {found value : Json}
    (h : Json.ofText content = .ok found) :
    (PropertyValue.literal content).IsLiteralOf value ↔ value = found := by
  constructor
  · rintro ⟨other, hother, hvalue⟩
    obtain rfl := PropertyValue.literal.inj hother
    rw [h] at hvalue
    exact (Except.ok.inj hvalue).symm
  · rintro rfl
    exact ⟨content, rfl, h⟩

/-- The value of a literal was read. -/
theorem PropertyValue.IsLiteralOf.isReadAt {property : PropertyValue} {value : Json}
    (h : property.IsLiteralOf value) : value.IsReadAt 0 := by
  obtain ⟨content, -, hread⟩ := h
  exact Json.isReadAt_of_ofText hread

namespace Descriptor

/-- What a property is emitted as: a text, a list of texts, or the value of a literal. -/
theorem propertyJson_cases (property : PropertyValue) :
    (propertyJson property).IsTextual ∨ property.IsLiteralOf (propertyJson property) := by
  cases property with
  | text content => exact .inl (.inl ⟨content, rfl⟩)
  | list items => exact .inl (.inr ⟨items, rfl⟩)
  | literal content =>
      cases hread : Json.ofText content with
      | ok value =>
          have hvalue : propertyJson (.literal content) = value := by
            simp only [propertyJson, hread]
          exact .inr ⟨content, rfl, by rw [hvalue, hread]⟩
      | error fault => exact .inl (.inl ⟨content, by simp only [propertyJson, hread]⟩)

/-- A literal that reads is emitted as its value. -/
theorem propertyJson_of_isLiteralOf {property : PropertyValue} {value : Json}
    (h : property.IsLiteralOf value) : propertyJson property = value := by
  obtain ⟨content, rfl, hread⟩ := h
  simp only [propertyJson, hread]

variable {descriptor : Descriptor}

/-- True of a descriptor whose literals leave the reader room for the object around them. The data
type is entered last and takes the place of a property of its key. -/
def HasShallowLiterals (descriptor : Descriptor) : Prop :=
  ∀ property ∈ descriptor.properties.entries,
    (property.1 = "dataType" → descriptor.dataType = none) →
      ∀ value, property.2.IsLiteralOf value → value.depth < Json.depthLimit

/-- A property is emitted unless the data type takes its place. -/
theorem mem_ofList_members {property : String × PropertyValue}
    (h : property ∈ descriptor.properties.entries)
    (hfree : property.1 = "dataType" → descriptor.dataType = none) :
    (property.1, propertyJson property.2) ∈ Entries.ofList descriptor.members := by
  have hkeys : Entries.keys (descriptor.properties.entries.map fun property ↦
      (property.1, propertyJson property.2)) = descriptor.properties.keys := by
    simp [Entries.keys, Table.keys]
  unfold members
  refine Entries.mem_ofList_append _ (hkeys ▸ descriptor.properties.nodup_keys)
    (List.mem_map.2 ⟨property, h, rfl⟩) ?_
  split
  · rename_i dataType hdataType
    intro hmem
    rw [hfree (List.mem_singleton.1 hmem)] at hdataType
    cases hdataType
  · exact List.not_mem_nil

/-- What is emitted is a text, a list of texts, or the value of a literal that the data type leaves in
place. -/
theorem mem_ofList_members_cases {member : String × Json}
    (h : member ∈ Entries.ofList descriptor.members) :
    member.2.IsTextual ∨
      ∃ property ∈ descriptor.properties.entries,
        (property.1 = "dataType" → descriptor.dataType = none) ∧
          property.2.IsLiteralOf member.2 := by
  rcases mem_members_cases (Entries.mem_of_mem_ofList h) with hstring | ⟨property, hproperty, rfl⟩
  · exact .inl (.inl hstring)
  rcases propertyJson_cases property.2 with htextual | hliteral
  · exact .inl htextual
  cases hdataType : descriptor.dataType with
  | none => exact .inr ⟨property, hproperty, fun _ ↦ rfl, hliteral⟩
  | some dataType =>
      by_cases hkey : property.1 = "dataType"
      · -- The data type is entered last, so it is what stands under its key.
        have hlast : ("dataType", Json.string dataType.name) ∈
            Entries.ofList descriptor.members := by
          rw [members, hdataType]
          exact Entries.mem_ofList_iff.2 ⟨_, [], rfl, List.not_mem_nil⟩
        have hdistinct := Entries.nodup_keys_ofList descriptor.members
        have hfound := Entries.get?_of_mem hdistinct h
        rw [hkey, Entries.get?_of_mem hdistinct hlast] at hfound
        exact .inl (.inl ⟨dataType.name, (Option.some.inj hfound).symm⟩)
      · exact .inr ⟨property, hproperty, fun hsame ↦ absurd hsame hkey, hliteral⟩

/-- The object of a descriptor nests as far as the reader allows if its literals leave room. -/
theorem depth_toJson_le_iff :
    descriptor.toJson.depth ≤ Json.depthLimit ↔ descriptor.HasShallowLiterals := by
  have hlimit : 1 < Json.depthLimit := by decide
  have hroom : descriptor.toJson.depth ≤ Json.depthLimit ↔
      Json.depthOfMembers (Entries.ofList descriptor.members) ≤ Json.depthLimit - 1 := by
    show Json.depthOfMembers (Entries.ofList descriptor.members) + 1 ≤ Json.depthLimit ↔ _
    omega
  rw [hroom, Json.depthOfMembers_le_iff]
  constructor
  · intro hdepth property hproperty hfree value hvalue
    have hmember := hdepth _ (mem_ofList_members hproperty hfree)
    rw [propertyJson_of_isLiteralOf hvalue] at hmember
    exact Nat.lt_of_le_sub_one (Nat.zero_lt_of_lt hlimit) hmember
  · intro hshallow member hmember
    refine Nat.le_sub_one_of_lt ?_
    rcases mem_ofList_members_cases hmember with htextual | ⟨property, hproperty, hfree, hliteral⟩
    · exact Nat.lt_of_le_of_lt htextual.depth_le hlimit
    · exact hshallow property hproperty hfree _ hliteral

/-- No object of a descriptor repeats a key, whatever is in its literals. -/
theorem hasDistinctKeys_toJson (descriptor : Descriptor) : descriptor.toJson.HasDistinctKeys := by
  refine ⟨Entries.nodup_keys_ofList descriptor.members,
    Json.membersHaveDistinctKeys_iff.2 fun member hmember ↦ ?_⟩
  rcases mem_ofList_members_cases hmember with htextual | ⟨property, -, -, hliteral⟩
  · exact htextual.hasDistinctKeys
  · exact hliteral.isReadAt.hasDistinctKeys

/-- The numbers of a descriptor are written exactly if no literal has a double. -/
theorem hasExactNumbers_toJson
    (hfloat : ∀ property ∈ descriptor.properties.entries, ∀ value,
      property.2.IsLiteralOf value → ∀ x, ¬ Json.Occurs (.number (.float x)) value) :
    descriptor.toJson.HasExactNumbers := by
  refine Json.membersHaveExactNumbers_iff.2 fun member hmember ↦ ?_
  rcases mem_ofList_members_cases hmember with htextual | ⟨property, hproperty, -, hliteral⟩
  · exact htextual.hasExactNumbers
  · exact hliteral.isReadAt.hasExactNumbers (hfloat property hproperty _ hliteral)

/-- A descriptor of which a literal is too deep is refused. -/
theorem ofText_text_of_deep (hnumbers : descriptor.toJson.HasExactNumbers)
    (hdeep : ¬ descriptor.HasShallowLiterals) :
    Json.ofText descriptor.text = .error (.text .tooDeep) :=
  Json.ofText_compactText_of_deep hnumbers
    (Nat.lt_of_not_le fun hdepth ↦ hdeep (depth_toJson_le_iff.1 hdepth))

end Descriptor

namespace Command

/-- A text that reads as a value stands in columns. -/
theorem bindingLine_of_ofText {text : String} {value : Json} (h : Json.ofText text = .ok value) :
    bindingLine text =
      padded 4 (memberText value "direction") ++ " " ++ padded 20 (memberText value "type") ++ " " ++
        memberText value "name" ++
        if memberText value "name" = returnBindingName then " (return)" else "" := by
  simp only [bindingLine, h]

/-- A text that does not read stands as it is. -/
theorem bindingLine_of_error {text : String} {fault : Json.Fault}
    (h : Json.ofText text = .error fault) : bindingLine text = text := by
  simp only [bindingLine, h]

end Command

/-- The text of a descriptor whose literals have no doubles in them reads as what was written, with
the keys in their order, and the list has it in columns. If a literal nests as far as the reader
allows, which is the most that a literal can, the text is refused, and the list has it as it is. -/
theorem descriptorText_readsBack {descriptor : Descriptor}
    (hfloat : ∀ property ∈ descriptor.properties.entries, ∀ value,
      property.2.IsLiteralOf value → ∀ x, ¬ Json.Occurs (.number (.float x)) value) :
    let member := Command.memberText descriptor.toJson
    (descriptor.HasShallowLiterals →
      Json.ofText descriptor.text = .ok descriptor.toJson ∧
        Command.bindingLine descriptor.text =
          Command.padded 4 (member "direction") ++ " " ++ Command.padded 20 (member "type") ++ " " ++
            member "name" ++ if member "name" = returnBindingName then " (return)" else "") ∧
    (¬ descriptor.HasShallowLiterals →
      Json.ofText descriptor.text = .error (.text .tooDeep) ∧
        Command.bindingLine descriptor.text = descriptor.text) ∧
    ∀ property ∈ descriptor.properties.entries, ∀ value,
      property.2.IsLiteralOf value → value.depth ≤ Json.depthLimit := by
  intro member
  have hnumbers := Descriptor.hasExactNumbers_toJson hfloat
  refine ⟨fun hshallow ↦ ?_, fun hdeep ↦ ?_, fun property _ value hvalue ↦ hvalue.isReadAt.depth_le⟩
  · have hread : Json.ofText descriptor.text = .ok descriptor.toJson :=
      Json.ofText_compactText hnumbers (Descriptor.depth_toJson_le_iff.2 hshallow)
        descriptor.hasDistinctKeys_toJson
    exact ⟨hread, Command.bindingLine_of_ofText hread⟩
  · have hread := Descriptor.ofText_text_of_deep hnumbers hdeep
    exact ⟨hread, Command.bindingLine_of_error hread⟩

namespace DeepLabel

/-- Arrays nested in one another around null. -/
def nested : Nat → Json
  | 0 => .null
  | n + 1 => .array [nested n]

theorem depth_nested (n : Nat) : (nested n).depth = n := by
  induction n with
  | zero => rfl
  | succ n ih => simp [nested, Json.depth, Json.depthOfItems, ih]

theorem hasExactNumbers_nested (n : Nat) : (nested n).HasExactNumbers := by
  induction n with
  | zero => trivial
  | succ n ih => exact ⟨ih, trivial⟩

theorem hasDistinctKeys_nested (n : Nat) : (nested n).HasDistinctKeys := by
  induction n with
  | zero => trivial
  | succ n ih => exact ⟨ih, trivial⟩

/-- A literal that nests as far as the reader allows. -/
def literal : PropertyValue := .literal (nested Json.depthLimit).compactText

/-- The literal reads as what it was written from. -/
theorem isLiteralOf_iff {value : Json} :
    literal.IsLiteralOf value ↔ value = nested Json.depthLimit :=
  PropertyValue.isLiteralOf_literal_iff
    (Json.ofText_compactText (hasExactNumbers_nested _) (Nat.le_of_eq (depth_nested _))
      (hasDistinctKeys_nested _))

/-- An object as it is written, with a key that comes twice. -/
def written : Json :=
  .object [("kind", .string "old"), ("tags", .array [.object [("a", .int 1)], .null]),
    ("kind", .int 2)]

/-- The object as it reads. -/
def found : Json :=
  .object [("kind", .int 2), ("tags", .array [.object [("a", .int 1)], .null])]

/-- The literal that the object is written as. -/
def objectLiteral : PropertyValue := .literal written.compactText

/-- Its numbers are written exactly. -/
theorem hasExactNumbers_found : found.HasExactNumbers := by
  simp [found, Json.int, Json.HasExactNumbers, Json.HaveExactNumbers,
    Json.MembersHaveExactNumbers, Json.Number.IsExact, Decimal.signedLimit, Decimal.unsignedLimit]

/-- The object reads with the later value at the earlier place. -/
theorem objectLiteral_isLiteralOf_iff {value : Json} :
    objectLiteral.IsLiteralOf value ↔ value = found := by
  have hnumbers : written.HasExactNumbers := by
    simp [written, Json.int, Json.HasExactNumbers, Json.HaveExactNumbers,
      Json.MembersHaveExactNumbers, Json.Number.IsExact, Decimal.signedLimit, Decimal.unsignedLimit]
  have hdocument : Json.Document.ofText written.compactText = ⟨Json.toDoc written, false⟩ :=
    Json.document_compactText hnumbers (by decide)
  refine PropertyValue.isLiteralOf_literal_iff ?_
  rw [Json.ofText, hdocument]
  rfl

/-- A descriptor with properties under its own keys: one that the name gives way to, and one that
gives way to the data type. -/
def relabelled : Descriptor :=
  ⟨"x", "Tags", .output, some .binary,
    .ofList [("name", .text "tags"), ("label", objectLiteral), ("dataType", literal),
      ("list", .list ["a", "b"])]⟩

/-- What the descriptor is emitted as. -/
theorem relabelled_toJson :
    relabelled.toJson =
      .object [("name", .string "tags"), ("type", .string "Tags"), ("direction", .string "Out"),
        ("label", found), ("dataType", .string "Binary"), ("list", .strings ["a", "b"])] := by
  have hlabel := Descriptor.propertyJson_of_isLiteralOf (objectLiteral_isLiteralOf_iff.2 rfl)
  have hmembers : relabelled.members =
      [("name", .string "x"), ("type", .string "Tags"), ("direction", .string "Out"),
        ("name", .string "tags"), ("label", Descriptor.propertyJson objectLiteral),
        ("dataType", Descriptor.propertyJson literal), ("list", .strings ["a", "b"]),
        ("dataType", .string "Binary")] := rfl
  rw [Descriptor.toJson, hmembers, hlabel]
  rfl

/-- The literals of the descriptor. -/
theorem cases_of_isLiteralOf {property : String × PropertyValue} {value : Json}
    (h : property ∈ relabelled.properties.entries) (hvalue : property.2.IsLiteralOf value) :
    property.1 = "label" ∧ value = found ∨
      property.1 = "dataType" ∧ value = nested Json.depthLimit := by
  have hentries : relabelled.properties.entries =
      [("name", .text "tags"), ("label", objectLiteral), ("dataType", literal),
        ("list", .list ["a", "b"])] := rfl
  simp only [hentries, List.mem_cons, List.not_mem_nil, or_false] at h
  rcases h with rfl | rfl | rfl | rfl
  · obtain ⟨content, hcontent, -⟩ := hvalue
    cases hcontent
  · exact .inl ⟨rfl, objectLiteral_isLiteralOf_iff.1 hvalue⟩
  · exact .inr ⟨rfl, isLiteralOf_iff.1 hvalue⟩
  · obtain ⟨content, hcontent, -⟩ := hvalue
    cases hcontent

/-- The descriptor reads, although the literal that gives way nests too far. -/
theorem descriptorText_readsBack_relabelled :
    (∀ property ∈ relabelled.properties.entries, ∀ value, property.2.IsLiteralOf value →
      ∀ x, ¬ Json.Occurs (.number (.float x)) value) ∧
    Json.ofText relabelled.text =
      .ok (.object [("name", .string "tags"), ("type", .string "Tags"),
        ("direction", .string "Out"), ("label", found), ("dataType", .string "Binary"),
        ("list", .strings ["a", "b"])]) ∧
    Command.bindingLine relabelled.text = "Out  Tags                 tags" := by
  have hfloat : ∀ property ∈ relabelled.properties.entries, ∀ value,
      property.2.IsLiteralOf value → ∀ x, ¬ Json.Occurs (.number (.float x)) value := by
    intro property hproperty value hvalue x hin
    rcases cases_of_isLiteralOf hproperty hvalue with ⟨-, rfl⟩ | ⟨-, rfl⟩
    · exact Json.isExact_of_occurs hasExactNumbers_found hin
    · exact Json.isExact_of_occurs (hasExactNumbers_nested _) hin
  have hshallow : relabelled.HasShallowLiterals := by
    intro property hproperty hfree value hvalue
    rcases cases_of_isLiteralOf hproperty hvalue with ⟨-, rfl⟩ | ⟨hkey, rfl⟩
    · decide
    · cases hfree hkey
  obtain ⟨hread, hline⟩ := (descriptorText_readsBack hfloat).1 hshallow
  rw [relabelled_toJson] at hread hline
  exact ⟨hfloat, hread, hline.trans (by decide)⟩

/-- A descriptor with the literal under a key of its own. -/
def descriptor : Descriptor := ⟨"x", "Tags", .input, none, .ofList [("label", literal)]⟩

/-- The literal has no double in it and is read, and the text of the descriptor is refused. -/
theorem exists_refused_descriptor :
    (∀ property ∈ descriptor.properties.entries, ∀ value, property.2.IsLiteralOf value →
      ∀ x, ¬ Json.Occurs (.number (.float x)) value) ∧
    literal.IsLiteralOf (nested 127) ∧
    Json.ofText descriptor.text = .error (.text .tooDeep) ∧
    Command.bindingLine descriptor.text = descriptor.text := by
  have hfloat : ∀ property ∈ descriptor.properties.entries, ∀ value, property.2.IsLiteralOf value →
      ∀ x, ¬ Json.Occurs (.number (.float x)) value := by
    intro property hproperty value hvalue x hin
    obtain rfl := List.mem_singleton.1 hproperty
    obtain rfl := isLiteralOf_iff.1 hvalue
    exact Json.isExact_of_occurs (hasExactNumbers_nested _) hin
  have hdeep : ¬ descriptor.HasShallowLiterals := by
    intro hshallow
    have hroom := hshallow ("label", literal) (List.mem_singleton.2 rfl) (fun _ ↦ rfl) _
      (isLiteralOf_iff.2 rfl)
    rw [depth_nested] at hroom
    exact Nat.lt_irrefl _ hroom
  have hread := Descriptor.ofText_text_of_deep (Descriptor.hasExactNumbers_toJson hfloat) hdeep
  exact ⟨hfloat, isLiteralOf_iff.2 rfl, hread, Command.bindingLine_of_error hread⟩

end DeepLabel

end FunctionBindings
