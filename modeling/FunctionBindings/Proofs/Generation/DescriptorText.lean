import FunctionBindings.Command.Execution
import FunctionBindings.Proofs.Binding.Responses
import FunctionBindings.Proofs.Generation.LoadedProperties
import FunctionBindings.Proofs.Json.QuotedText
import FunctionBindings.Proofs.Json.RoundTrip

/-!
# Texts of descriptors

What a reader finds in the text of a binding's descriptor. The keys and values of the properties
come from the arguments of an attribute, which may be called anything and hold anything; still none
of them takes the place of a member of the descriptor's own, none is anything but a text or a list
of texts, and the whole text reads as what was written. Main statement: `descriptorText_reads`.
-/

namespace FunctionBindings

namespace Json

/-- True of a text and of a list of texts. -/
def IsTextual (value : Json) : Prop :=
  (∃ text, value = .string text) ∨ ∃ texts, value = .strings texts

namespace IsTextual

variable {value : Json}

/-- A textual value has no numbers. -/
theorem hasExactNumbers (h : value.IsTextual) : value.HasExactNumbers := by
  rcases h with ⟨text, rfl⟩ | ⟨texts, rfl⟩
  · trivial
  · exact hasExactNumbers_strings texts

/-- A textual value has no objects. -/
theorem hasDistinctKeys (h : value.IsTextual) : value.HasDistinctKeys := by
  rcases h with ⟨text, rfl⟩ | ⟨texts, rfl⟩
  · trivial
  · exact hasDistinctKeys_strings texts

/-- A textual value is one array deep at most. -/
theorem depth_le (h : value.IsTextual) : value.depth ≤ 1 := by
  rcases h with ⟨text, rfl⟩ | ⟨texts, rfl⟩
  · exact Nat.zero_le 1
  · exact Nat.le_of_eq (depth_strings texts)

end IsTextual

/-- An object of textual members with distinct keys is read back from its text, and the text has no
member besides these. -/
theorem reads_object_of_textual {members : List (String × Json)}
    (hkeys : (Entries.keys members).Nodup) (htextual : ∀ member ∈ members, member.2.IsTextual) :
    Document.ofText (object members).compactText = ⟨toDoc (.object members), false⟩ ∧
      ofText (object members).compactText = .ok (.object members) := by
  have hnumbers : (object members).HasExactNumbers :=
    membersHaveExactNumbers_iff.2 fun member hmem ↦ (htextual member hmem).hasExactNumbers
  have hdistinct : (object members).HasDistinctKeys :=
    ⟨hkeys, membersHaveDistinctKeys_iff.2 fun member hmem ↦ (htextual member hmem).hasDistinctKeys⟩
  have hdepth : (object members).depth ≤ depthLimit := by
    have hmembers : depthOfMembers members ≤ 1 :=
      depthOfMembers_le_iff.2 fun member hmem ↦ (htextual member hmem).depth_le
    have hlimit : 2 ≤ depthLimit := by decide
    show depthOfMembers members + 1 ≤ depthLimit
    omega
  exact ⟨document_compactText hnumbers hdepth, ofText_compactText hnumbers hdepth hdistinct⟩

end Json

/-- True of a property value that is no literal, and of a literal that begins with a quote. -/
def PropertyValue.IsSound : PropertyValue → Prop
  | .literal content => ∃ inside, content.toList = '"' :: inside
  | _ => True

/-- Only strings in quotes become literals. -/
theorem Constant.RendersAs.isSound {constant : Constant} {value : PropertyValue}
    (h : constant.RendersAs value) : value.IsSound := by
  cases h with
  | @literal content inner hcontent => exact ⟨_, hcontent ▸ toList_quoted inner⟩
  | text | list => trivial

/-- What an argument becomes stays clear of the descriptor's own members. -/
theorem Attribute.mem_properties {attr : Attribute} {spec : BindingSpec}
    {property : String × PropertyValue} (h : property ∈ (attr.properties spec).entries) :
    property.1 ∉ reservedKeys ∧ property.2.IsSound := by
  obtain ⟨entry, -, hentry⟩ := List.mem_filterMap.1 (Table.mem_of_mem_entries_ofList h)
  have hentered := propertyEntry?_eq_some_iff.1 hentry
  exact ⟨hentered.notReserved, hentered.value.isSound⟩

namespace Descriptor

/-- A literal that begins with a quote is emitted as a string, whether it reads or not. -/
theorem isTextual_propertyJson {value : PropertyValue} (h : value.IsSound) :
    (propertyJson value).IsTextual := by
  cases value with
  | text content => exact .inl ⟨content, rfl⟩
  | list items => exact .inr ⟨items, rfl⟩
  | literal content =>
      obtain ⟨inside, hinside⟩ := h
      simp only [propertyJson]
      split
      · rename_i value hread
        exact .inl (Json.isString_of_ofText_quote hinside hread)
      · exact .inl ⟨content, rfl⟩

/-- A member of a descriptor is a string or a property. -/
theorem mem_members_cases {descriptor : Descriptor} {member : String × Json}
    (h : member ∈ descriptor.members) :
    (∃ text, member.2 = .string text) ∨
      ∃ property ∈ descriptor.properties.entries,
        member = (property.1, propertyJson property.2) := by
  simp only [members, List.mem_append] at h
  rcases h with (hown | hproperty) | hlast
  · simp only [List.mem_cons, List.not_mem_nil, or_false] at hown
    rcases hown with rfl | rfl | rfl <;> exact .inl ⟨_, rfl⟩
  · obtain ⟨property, hmem, rfl⟩ := List.mem_map.1 hproperty
    exact .inr ⟨property, hmem, rfl⟩
  · split at hlast
    · obtain rfl := List.mem_singleton.1 hlast
      exact .inl ⟨_, rfl⟩
    · cases hlast

/-- All members of a descriptor are textual if no literal is anything but a string. -/
theorem isTextual_of_mem_members {descriptor : Descriptor}
    (h : ∀ property ∈ descriptor.properties.entries, property.2.IsSound) :
    ∀ member ∈ descriptor.members, member.2.IsTextual := by
  intro member hmember
  rcases mem_members_cases hmember with hstring | ⟨property, hproperty, rfl⟩
  · exact .inl hstring
  · exact isTextual_propertyJson (h property hproperty)

/-- The keys of a descriptor's members: its own, with those of the properties before the last. -/
theorem keys_members (descriptor : Descriptor) :
    Entries.keys descriptor.members =
      ["name", "type", "direction"] ++ descriptor.properties.keys ++
        if descriptor.dataType.isSome then ["dataType"] else [] := by
  simp only [members, Entries.keys, Table.keys, List.map_append, List.map_map]
  cases descriptor.dataType <;> rfl

/-- No key repeats if the properties leave the reserved keys alone. -/
theorem nodup_keys_members {descriptor : Descriptor}
    (h : ∀ key ∈ descriptor.properties.keys, key ∉ reservedKeys) :
    (Entries.keys descriptor.members).Nodup := by
  -- The reserved keys are those of the members in front of the properties and behind them.
  have hreserved : reservedKeys = ["name", "type", "direction"] ++ ["dataType"] := rfl
  rw [keys_members, List.nodup_append, List.nodup_append]
  refine ⟨⟨by decide, descriptor.properties.nodup_keys, ?_⟩, ?_, ?_⟩
  · rintro key hown other hproperty rfl
    exact h key hproperty (hreserved ▸ List.mem_append_left _ hown)
  · split <;> simp
  · intro key hearlier other hlast
    have hother : other = "dataType" := by
      split at hlast
      · exact List.mem_singleton.1 hlast
      · cases hlast
    rintro rfl
    subst hother
    rcases List.mem_append.1 hearlier with hown | hproperty
    · exact absurd hown (by decide)
    · exact h "dataType" hproperty (by decide)

end Descriptor

namespace Binding

/-- The type that a binding's descriptor names. -/
def typeName (binding : Binding) : String :=
  match binding.origin with
  | .declared _ spec => spec.bindingType
  | .httpResponse => httpBindingType

/-- The properties that the attribute of a binding loads. -/
def loadedProperties (binding : Binding) : Properties :=
  match binding.origin with
  | .declared attr spec => attr.properties spec
  | .httpResponse => ∅

/-- What members say of a binding that they describe. -/
structure IsDescribedBy (binding : Binding) (members : List (String × Json)) : Prop where
  /-- The own members come in their order, with the properties in front of the data type. -/
  keys : Entries.keys members =
    ["name", "type", "direction"] ++ binding.loadedProperties.keys ++
      if binding.dataType.isSome then ["dataType"] else []
  nodup_keys : (Entries.keys members).Nodup
  name : Entries.get? "name" members = some (.string binding.name)
  type : Entries.get? "type" members = some (.string binding.typeName)
  direction : Entries.get? "direction" members = some (.string binding.direction.name)
  dataType : Entries.get? "dataType" members = binding.dataType.map fun type ↦ .string type.name
  /-- Every property is there, as a text or a list of texts. -/
  properties : ∀ property ∈ binding.loadedProperties.entries,
    Entries.get? property.1 members = some (Descriptor.propertyJson property.2) ∧
      (Descriptor.propertyJson property.2).IsTextual

/-- The properties of a binding stay clear of the descriptor's own members. -/
theorem mem_loadedProperties {binding : Binding} {property : String × PropertyValue}
    (h : property ∈ binding.loadedProperties.entries) :
    property.1 ∉ reservedKeys ∧ property.2.IsSound := by
  unfold loadedProperties at h
  split at h
  · exact Attribute.mem_properties h
  · cases h

end Binding

/-- The descriptor of a binding that a classification finds holds what was found. -/
theorem ScannedFunction.descriptor_of_mem_classify {function : ScannedFunction} {catalog : Catalog}
    {conventions : Conventions} {binding : Binding}
    (h : binding ∈ (function.classify catalog conventions).bindings) :
    binding.descriptor =
      ⟨binding.name, binding.typeName, binding.direction, binding.dataType,
        binding.loadedProperties⟩ := by
  simp only [classify, List.mem_append] at h
  -- One case for each pass; only the last one makes responses, which have no properties.
  rcases h with (hmethod | hparam) | hreturn
  · obtain ⟨entry, -, rfl⟩ := List.mem_map.1 hmethod
    rfl
  · obtain ⟨param, -, hdeclared⟩ := List.mem_flatMap.1 hparam
    obtain ⟨entry, -, rfl⟩ := List.mem_map.1 hdeclared
    rfl
  · rcases function.mem_returnBindings catalog conventions hreturn with rfl | ⟨member, -, hmember⟩
    · rfl
    · unfold bindingsOfMember at hmember
      split at hmember
      · obtain rfl := List.mem_singleton.1 hmember
        rfl
      · obtain ⟨entry, -, rfl⟩ := List.mem_map.1 hmember
        rfl

namespace Binding

variable {binding : Binding}

/-- A descriptor that holds what a binding is describes it. -/
theorem isDescribedBy_members
    (h : binding.descriptor =
      ⟨binding.name, binding.typeName, binding.direction, binding.dataType,
        binding.loadedProperties⟩) :
    binding.IsDescribedBy binding.descriptor.members := by
  have hfree : ∀ key ∈ binding.loadedProperties.keys, key ∉ reservedKeys := by
    intro key hkey
    obtain ⟨property, hproperty, rfl⟩ := List.mem_map.1 hkey
    exact (mem_loadedProperties hproperty).1
  have hkeys : (Entries.keys binding.descriptor.members).Nodup :=
    Descriptor.nodup_keys_members (by rw [h]; exact hfree)
  refine ⟨?_, hkeys, ?_, ?_, ?_, ?_, ?_⟩
  · rw [Descriptor.keys_members, h]
  · rw [h]
    rfl
  · rw [h]
    rfl
  · rw [h]
    rfl
  · cases hdata : binding.dataType with
    | none =>
        rw [Option.map_none, Entries.get?_eq_none_iff, Descriptor.keys_members, h, hdata]
        intro hmem
        rcases List.mem_append.1 hmem with hearlier | hlast
        · rcases List.mem_append.1 hearlier with hown | hproperty
          · exact absurd hown (by decide)
          · exact hfree "dataType" hproperty (by decide)
        · cases hlast
    | some type =>
        refine Entries.get?_of_mem hkeys ?_
        rw [h, hdata]
        exact List.mem_append_right _ (List.mem_singleton.2 rfl)
  · intro property hproperty
    refine ⟨Entries.get?_of_mem hkeys ?_,
      Descriptor.isTextual_propertyJson (mem_loadedProperties hproperty).2⟩
    have hmem : (property.1, Descriptor.propertyJson property.2) ∈
        binding.loadedProperties.entries.map fun property ↦
          (property.1, Descriptor.propertyJson property.2) :=
      List.mem_map.2 ⟨property, hproperty, rfl⟩
    rw [h]
    exact List.mem_append_left _ (List.mem_append_right _ hmem)

/-- The members that describe a binding put it in columns. -/
theorem bindingLine_of_isDescribedBy {text : String} {members : List (String × Json)}
    (hread : Json.ofText text = .ok (.object members)) (h : binding.IsDescribedBy members) :
    Command.bindingLine text =
      Command.padded 4 binding.direction.name ++ " " ++ Command.padded 20 binding.typeName ++ " " ++
        binding.name ++ if binding.name = returnBindingName then " (return)" else "" := by
  simp [Command.bindingLine, hread, Command.memberText, Json.member?, h.name, h.type, h.direction,
    Json.string?]

end Binding

/-- The text of a descriptor of an accepted function reads as an object that describes the binding,
without any member that is written twice, and stands in the list with just the direction, the type
and the name of the binding. -/
theorem descriptorText_reads {function : ScannedFunction} {catalog : Catalog}
    {conventions : Conventions} {checked : CheckedFunction} {binding : Binding}
    (hchecked : checkFunction function catalog conventions = .ok checked)
    (hbinding : binding ∈ checked.bindings) :
    ∃ members : List (String × Json),
      Json.Document.ofText binding.descriptor.text = ⟨Json.toDoc (.object members), false⟩ ∧
      Json.ofText binding.descriptor.text = .ok (.object members) ∧
      binding.IsDescribedBy members ∧
      Command.bindingLine binding.descriptor.text =
        Command.padded 4 binding.direction.name ++ " " ++
          Command.padded 20 binding.typeName ++ " " ++ binding.name ++
          if binding.name = returnBindingName then " (return)" else "" := by
  obtain ⟨-, rfl⟩ := checkFunction_eq_ok_iff.1 hchecked
  have hdescriptor := ScannedFunction.descriptor_of_mem_classify hbinding
  have hdescribed := Binding.isDescribedBy_members hdescriptor
  have htextual : ∀ member ∈ binding.descriptor.members, member.2.IsTextual := by
    refine Descriptor.isTextual_of_mem_members fun property hproperty ↦ ?_
    rw [hdescriptor] at hproperty
    exact (Binding.mem_loadedProperties hproperty).2
  have htext : binding.descriptor.text = (Json.object binding.descriptor.members).compactText := by
    rw [Descriptor.text, Descriptor.toJson, Entries.ofList_of_nodup hdescribed.nodup_keys]
  obtain ⟨hdocument, hread⟩ := Json.reads_object_of_textual hdescribed.nodup_keys htextual
  rw [← htext] at hdocument hread
  exact ⟨_, hdocument, hread, hdescribed, Binding.bindingLine_of_isDescribedBy hread hdescribed⟩

namespace OrderQueue

/-- The attribute of a queue: a text in quotes by place, and a text that is called `Type`. -/
def attr : Attribute :=
  ((Attribute.named "QueueTriggerAttribute").withArgument (.string "\"orders\"")).withNamedArgument
    "Type" (.string "timer")

/-- What the attribute binds. -/
def spec : BindingSpec := ⟨"QueueTrigger", "queueTrigger", .trigger, [["queueName"]], []⟩

/-- A method with the attribute on its parameter. -/
def method : Method :=
  (Method.of "Run" .void).withParam ((Parameter.of "order" (.named "string" [])).annotated attr)

/-- The function of the method. -/
def function : ScannedFunction := ⟨"Orders", "Shop.Orders.Run", .of "Orders", method, none⟩

/-- The binding of the parameter. -/
def binding : Binding := .declared "order" .parameter (some .string) attr spec

/-- An argument that is called after a member of the descriptor's own does not take its place. -/
theorem descriptorText_reads_binding :
    checkFunction function (Catalog.empty.register spec) .standard =
      .ok ⟨function, [binding], []⟩ ∧
    ∃ members : List (String × Json),
      Json.Document.ofText binding.descriptor.text = ⟨Json.toDoc (.object members), false⟩ ∧
      Json.ofText binding.descriptor.text = .ok (.object members) ∧
      Entries.get? "type" members = some (.string "queueTrigger") ∧
      Command.bindingLine binding.descriptor.text = "In   queueTrigger         order" := by
  have hchecked : checkFunction function (Catalog.empty.register spec) .standard =
      .ok ⟨function, [binding], []⟩ := rfl
  have hbinding : binding ∈ [binding] := List.mem_singleton.2 rfl
  obtain ⟨members, hdocument, hread, hdescribed, hline⟩ :=
    descriptorText_reads hchecked hbinding
  exact ⟨hchecked, members, hdocument, hread, hdescribed.type, hline.trans (by decide)⟩

end OrderQueue

end FunctionBindings
