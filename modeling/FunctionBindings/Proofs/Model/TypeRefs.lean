import FunctionBindings.Model.TypeRef.Json
import FunctionBindings.Proofs.Json.TypedReading

/-!
# Reading type references back

A reference is written with its kind in front, and reading goes through all of its members before
the kind decides which of them are parts. An empty list of type arguments is not written; reading
takes a list that is absent for an empty one. So every reference is read back from its object:
`TypeRef.read_toDoc_toJson`.
-/

namespace FunctionBindings.TypeRef

open Json (Source)

mutual

/-- A reference has no numbers. -/
theorem hasExactNumbers_toJson : ∀ type : TypeRef, type.toJson.HasExactNumbers
  | .void => ⟨trivial, trivial⟩
  | .named _ [] => ⟨trivial, trivial, trivial⟩
  | .named _ (generic :: generics) => by
      have hgeneric := hasExactNumbers_toJson generic
      have hgenerics := haveExactNumbers_toJsons generics
      exact ⟨trivial, trivial, ⟨hgeneric, hgenerics⟩, trivial⟩
  | .array element => ⟨trivial, hasExactNumbers_toJson element, trivial⟩
  | .unresolved _ => ⟨trivial, trivial, trivial⟩

/-- References have no numbers. -/
theorem haveExactNumbers_toJsons : ∀ types : List TypeRef,
    Json.HaveExactNumbers (toJsons types)
  | [] => trivial
  | type :: types => ⟨hasExactNumbers_toJson type, haveExactNumbers_toJsons types⟩

end

/-- The members behind the kind are gone through without finding another kind. -/
theorem kindOfMembers_toMemberDocs (source : Source) {members : List (String × Json)}
    (h : "kind" ∉ Entries.keys members) (kind? : Option Kind) :
    kindOfMembers source (Json.toMemberDocs members) kind? = .ok kind? := by
  induction members with
  | nil => rfl
  | cons member members ih =>
      obtain ⟨key, value⟩ := member
      obtain ⟨hkey, hmembers⟩ := List.ne_and_not_mem_of_not_mem_cons h
      simp [Json.toMemberDocs, kindOfMembers, Json.Key.name, hkey.symm, Json.check_toDoc,
        ih hmembers, bind, Except.bind]

/-- A reference whose kind stands in front of its parts is what the parts make up. -/
theorem read_object {source : Source} {name : String} (kind : Kind)
    {members : List (String × Json)} (hmembers : "kind" ∉ Entries.keys members)
    (hkind : Json.readTag Kind.names source (.string name) = .ok kind) :
    read source (Json.toDoc (.object (("kind", .string name) :: members))) =
      (readMembers kind (Json.toMemberDocs (("kind", .string name) :: members)) .none).bind
        fun parts ↦ parts.assemble kind := by
  have hkinds := kindOfMembers_toMemberDocs source hmembers (some kind)
  simp only [Json.toDoc, Json.toMemberDocs, read, Json.refuseDeep, kindOfMembers, Json.Key.name,
    hkind, hkinds, Json.Ending.ofMembers, bind, Except.bind]
  rfl

mutual

/-- A reference is read back from its object. -/
theorem read_toDoc_toJson (source : Source) : ∀ type : TypeRef,
    read source (Json.toDoc type.toJson) = .ok type
  | .void => (read_object .void (by decide) rfl).trans rfl
  | .named path [] => (read_object .named (by simp [Entries.keys]) rfl).trans rfl
  | .named path (generic :: generics) => by
      have hgeneric := read_toDoc_toJson .buffer generic
      have hgenerics := readAll_toDocs_toJsons generics
      rw [toJson]
      refine (read_object .named (by simp [Entries.keys]) rfl).trans ?_
      simp [Json.toMemberDocs, Json.toDoc, Json.toDocs, readMembers, readGenerics, readAll, enter,
        Parts.none, Parts.assemble, Json.Key.name, Json.readString, hgeneric, hgenerics, bind,
        Except.bind, pure, Except.pure, Except.map]
  | .array element => by
      have helement := read_toDoc_toJson .buffer element
      rw [toJson]
      refine (read_object .array (by simp [Entries.keys]) rfl).trans ?_
      simp [Json.toMemberDocs, readMembers, enter, Parts.none, Parts.assemble, Json.Key.name,
        helement, bind, Except.bind, Except.map]
  | .unresolved text => (read_object .unresolved (by simp [Entries.keys]) rfl).trans rfl

/-- References are read back from their array. -/
theorem readAll_toDocs_toJsons : ∀ types : List TypeRef,
    readAll (Json.toDocs (toJsons types)) = .ok types
  | [] => rfl
  | type :: types => by
      have htype := read_toDoc_toJson .buffer type
      have htypes := readAll_toDocs_toJsons types
      simp [toJsons, Json.toDocs, readAll, htype, htypes, bind, Except.bind, pure, Except.pure]

end

/-- A reference is read back. -/
theorem readsBack (type : TypeRef) : Json.ReadsBack reader type.toJson type :=
  ⟨hasExactNumbers_toJson type, fun source ↦ read_toDoc_toJson source type⟩

end FunctionBindings.TypeRef
