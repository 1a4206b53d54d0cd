import FunctionBindings.Json.Reader
import FunctionBindings.Proofs.Json.RoundTrip

/-!
# Reading typed values back

What the readers of `Json.Reader` make of a document that was written from a value of their type. A
record is written as an object with its fields in order; reading such an object takes every member
for its field and finds none missing (`readRecord_toDoc_object`). A list is read item by item
(`readList_toDoc_array`). The round trip of a type is put together from these, whatever the text;
`ReadsBack` says what has to be known of each part.
-/

namespace FunctionBindings.Json

variable {α : Type}

/-- Read the fields of a record in order, each from its own document. -/
def readFields (source : Source) : List (Field α) → List Doc → α → Except Fault α
  | field :: fields, doc :: docs, record => do
      let record ← field.read source doc record
      readFields source fields docs record
  | _, _, record => .ok record

/-- The first field with a name is the one of that name if no field before it has the name. -/
theorem find?_name_eq {done later : List (Field α)} {field : Field α}
    (h : field.name ∉ done.map (·.name)) :
    (done ++ field :: later).find? (·.name = field.name) = some field := by
  have hdone : done.find? (·.name = field.name) = none := by
    rw [List.find?_eq_none]
    intro other hother
    simpa using fun heq ↦ h (List.mem_map.2 ⟨other, hother, heq⟩)
  simp [List.find?_append, hdone]

/-- Members that come in the order of the fields are read field by field. -/
theorem readMembers_toMemberDocs (source : Source) {members : List (String × Json)}
    (done later : List (Field α)) (record : α) (hnames : later.map (·.name) = Entries.keys members)
    (hnodup : ((done ++ later).map (·.name)).Nodup) :
    readMembers (done ++ later) source (toMemberDocs members)
        (record, (done.map (·.name)).reverse) =
      (readFields source later (members.map fun member ↦ toDoc member.2) record).map
        fun record ↦ (record, ((done ++ later).map (·.name)).reverse) := by
  induction members generalizing done later record with
  | nil =>
      obtain rfl : later = [] := List.map_eq_nil_iff.1 hnames
      rw [List.append_nil]
      rfl
  | cons member members ih =>
      obtain ⟨key, value⟩ := member
      obtain ⟨field, later, rfl, rfl, hrest⟩ := List.map_eq_cons_iff.1 hnames
      have hnew : field.name ∉ done.map (·.name) := by
        rw [List.map_append, List.nodup_append] at hnodup
        intro hdone
        exact hnodup.2.2 _ hdone field.name (by simp) rfl
      have hall : done ++ field :: later = (done ++ [field]) ++ later := by simp
      have hseen : field.name :: (done.map (·.name)).reverse =
          ((done ++ [field]).map (·.name)).reverse := by simp
      simp only [toMemberDocs, readMembers, Key.name, find?_name_eq hnew, List.map_cons, readFields,
        List.mem_reverse, hnew, if_false, bind, Except.bind]
      cases field.read source (toDoc value) record with
      | error fault => rfl
      | ok record =>
          -- The field just read is one of those that are done when the next member comes.
          simp only [hseen]
          rw [hall] at hnodup ⊢
          exact ih (done ++ [field]) later record hrest hnodup

/-- An object that has the fields of a record in order is read field by field. -/
theorem readRecord_toDoc_object (title : String) (start : α) {fields : List (Field α)}
    (source : Source) {members : List (String × Json)}
    (hnames : fields.map (·.name) = Entries.keys members)
    (hnodup : (fields.map (·.name)).Nodup) :
    readRecord title start fields source (toDoc (.object members)) =
      readFields source fields (members.map fun member ↦ toDoc member.2) start := by
  have hmembers := readMembers_toMemberDocs source [] fields start hnames hnodup
  rw [List.nil_append, List.map_nil, List.reverse_nil] at hmembers
  have hmissing : fields.find? (fun f ↦ f.presence = .required ∧
      f.name ∉ (fields.map (·.name)).reverse) = none := by
    rw [List.find?_eq_none]
    intro field hfield
    simpa using fun _ ↦ ⟨field, hfield, rfl⟩
  simp only [toDoc, readRecord, refuseDeep, Bool.false_eq_true, if_false, hmembers, bind,
    Except.bind]
  cases readFields source fields (members.map fun member ↦ toDoc member.2) start with
  | error fault => rfl
  | ok record => simp only [Except.map, Ending.ofMembers, hmissing, pure, Except.pure]

/-- Items are read back if each of them is. -/
theorem readItems_toDocs {read : Reader α} {toJson : α → Json} (source : Source) {values : List α}
    (h : ∀ value ∈ values, read source (toDoc (toJson value)) = .ok value) :
    readItems read source (toDocs (values.map toJson)) = .ok values := by
  induction values with
  | nil => rfl
  | cons value values ih =>
      obtain ⟨hvalue, hvalues⟩ := List.forall_mem_cons.1 h
      simp [toDocs, readItems, hvalue, ih hvalues, bind, Except.bind, pure, Except.pure]

/-- A list is read back from its array if each item is. -/
theorem readList_toDoc_array {read : Reader α} {toJson : α → Json} (source : Source)
    {values : List α} (h : ∀ value ∈ values, read source (toDoc (toJson value)) = .ok value) :
    readList read source (toDoc (.array (values.map toJson))) = .ok values := by
  simp [toDoc, readList, refuseDeep, readItems_toDocs source h, Ending.ofItems, bind, Except.bind,
    pure, Except.pure]

-- A key that repeats changes the value that is found, but never whether there is one.
mutual

/-- The document of a value has a value. -/
theorem exists_value_toDoc : ∀ value : Json, ∃ found, (toDoc value).value = .ok found
  | .null => ⟨.null, rfl⟩
  | .bool b => ⟨.bool b, rfl⟩
  | .number n => ⟨.number n, rfl⟩
  | .string text => ⟨.string text, rfl⟩
  | .array items => by
      obtain ⟨found, hfound⟩ := exists_values_toDocs items
      exact ⟨.array found, by simp [toDoc, Doc.value, refuseDeep, Ending.ofItems, hfound, bind,
        Except.bind, pure, Except.pure]⟩
  | .object members => by
      obtain ⟨found, hfound⟩ := exists_memberValues_toMemberDocs members
      exact ⟨.object (Entries.ofList found), by simp [toDoc, Doc.value, refuseDeep,
        Ending.ofMembers, hfound, bind, Except.bind, pure, Except.pure]⟩

/-- The documents of items have values. -/
theorem exists_values_toDocs : ∀ items : List Json, ∃ found, Doc.values (toDocs items) = .ok found
  | [] => ⟨[], rfl⟩
  | item :: items => by
      obtain ⟨value, hvalue⟩ := exists_value_toDoc item
      obtain ⟨values, hvalues⟩ := exists_values_toDocs items
      exact ⟨value :: values, by simp [toDocs, Doc.values, hvalue, hvalues, bind, Except.bind, pure,
        Except.pure]⟩

/-- The documents of members have values. -/
theorem exists_memberValues_toMemberDocs : ∀ members : List (String × Json),
    ∃ found, Doc.memberValues (toMemberDocs members) = .ok found
  | [] => ⟨[], rfl⟩
  | (key, value) :: members => by
      obtain ⟨found, hfound⟩ := exists_value_toDoc value
      obtain ⟨values, hvalues⟩ := exists_memberValues_toMemberDocs members
      exact ⟨(key, found) :: values, by simp [toMemberDocs, Doc.memberValues, Key.name, hfound,
        hvalues, bind, Except.bind, pure, Except.pure]⟩

end

/-- There is no fault in the document of a value. -/
theorem check_toDoc (value : Json) : (toDoc value).check = .ok () := by
  obtain ⟨found, hfound⟩ := exists_value_toDoc value
  simp [Doc.check, hfound, bind, Except.bind, pure, Except.pure]

/-- A reader finds in a text what it finds in the document of the value that was written. -/
theorem Reader.ofText_of_document {read : Reader α} {text : String} {value : Json}
    (h : Document.ofText text = ⟨toDoc value, false⟩) :
    read.ofText text = read .text (toDoc value) := by
  rw [Reader.ofText, h, Document.readWith]
  cases read .text (toDoc value) <;> rfl

/-- A value is written exactly, and its document is read as what was written. -/
structure ReadsBack (read : Reader α) (json : Json) (value : α) : Prop where
  exact : json.HasExactNumbers
  reads : ∀ source, read source (toDoc json) = .ok value

namespace ReadsBack

/-- A text is read back. -/
theorem string (text : String) : ReadsBack readString (.string text) text :=
  ⟨trivial, fun _ ↦ rfl⟩

/-- A text or nothing is read back. -/
theorem stringOrNull (text? : Option String) :
    ReadsBack (readOption readString) (.stringOrNull text?) text? := by
  cases text? <;> exact ⟨trivial, fun _ ↦ rfl⟩

/-- A 64-bit integer is read back. -/
theorem offset (n : UInt64) : ReadsBack readOffset (.nat n.toNat) n := by
  have hbound : n.toNat < Decimal.unsignedLimit := n.toNat_lt
  have hbound' : (n.toNat : Int) < Decimal.unsignedLimit := Int.ofNat_lt.2 hbound
  refine ⟨⟨?_, hbound'⟩, ?_⟩
  · omega
  · intro source
    have hsign : ¬ (n.toNat : Int) < 0 := by omega
    simp [nat, toDoc, readOffset, hsign, hbound']

/-- A list is read back if each item is. -/
theorem list {read : Reader α} {toJson : α → Json} {values : List α}
    (h : ∀ value ∈ values, ReadsBack read (toJson value) value) :
    ReadsBack (readList read) (.array (values.map toJson)) values where
  exact := haveExactNumbers_iff.2 (List.forall_mem_map.2 fun value hvalue ↦ (h value hvalue).exact)
  reads source := readList_toDoc_array source fun value hvalue ↦ (h value hvalue).reads source

/-- A list of texts is read back. -/
theorem strings (texts : List String) : ReadsBack (readList readString) (.strings texts) texts :=
  list fun text _ ↦ string text

end ReadsBack

/-- Each member has the name of its field and a value that is read back, and entering these values
one after the other takes a record to another one. -/
inductive FieldsReadBack : List (Field α) → List (String × Json) → α → α → Prop where
  | nil {record : α} : FieldsReadBack [] [] record record
  | cons {β : Type} {name : String} {presence : Presence} {read : Reader β} {set : α → β → α}
      {fields : List (Field α)} {json : Json} {members : List (String × Json)} {value : β}
      {record result : α} (hvalue : ReadsBack read json value)
      (hfields : FieldsReadBack fields members (set record value) result) :
      FieldsReadBack (.of name presence read set :: fields) ((name, json) :: members) record result

namespace FieldsReadBack

variable {fields : List (Field α)} {members : List (String × Json)} {record result : α}

/-- The members have the names of the fields. -/
theorem names_eq (h : FieldsReadBack fields members record result) :
    fields.map (·.name) = Entries.keys members := by
  induction h with
  | nil => rfl
  | cons hvalue hfields ih => exact congrArg (List.cons _) ih

/-- The members are written exactly. -/
theorem exact (h : FieldsReadBack fields members record result) :
    MembersHaveExactNumbers members := by
  induction h with
  | nil => trivial
  | cons hvalue hfields ih => exact ⟨hvalue.exact, ih⟩

/-- The members are read field by field. -/
theorem reads (h : FieldsReadBack fields members record result) (source : Source) :
    readFields source fields (members.map fun member ↦ toDoc member.2) record = .ok result := by
  induction h with
  | nil => rfl
  | cons hvalue hfields ih =>
      simp only [List.map_cons, readFields, Field.of, hvalue.reads source, Except.map, bind,
        Except.bind]
      exact ih

end FieldsReadBack

namespace ReadsBack

/-- A record is read back from the object of its fields if the value of each field is. -/
theorem record {title : String} {start result : α} {fields : List (Field α)}
    {members : List (String × Json)} (h : FieldsReadBack fields members start result)
    (hnodup : (fields.map (·.name)).Nodup) :
    ReadsBack (readRecord title start fields) (.object members) result := by
  refine ⟨h.exact, fun source ↦ ?_⟩
  rw [readRecord_toDoc_object title start source h.names_eq hnodup]
  exact h.reads source

/-- What is read back from its value is read back from the compact text of the value. -/
theorem ofText {read : Reader α} {json : Json} {value : α} (h : ReadsBack read json value)
    (hdepth : json.depth ≤ depthLimit) : read.ofText json.compactText = .ok value :=
  (Reader.ofText_of_document (document_compactText h.exact hdepth)).trans (h.reads .text)

end ReadsBack

end FunctionBindings.Json
