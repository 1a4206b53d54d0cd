import FunctionBindings.Proofs.Generation.LookAlikes
import Mathlib.Data.List.Find

/-!
# Idle attributes

An attribute is active if the catalog knows it, as a binding or as legacy, or if it marks an entry
point; all others are idle. A function without its idle attributes, and without whatever else its
types declare, looks as before (`looksLike_trim`) and adds the same to a report
(`contribution_trim`).
-/

namespace FunctionBindings

/-- True of an attribute that binds something, is legacy, or marks an entry point. -/
def Catalog.isActive (catalog : Catalog) (conventions : Conventions) (attr : Attribute) : Bool :=
  (catalog.lookup? attr.name).isSome || catalog.isLegacy attr.name ||
    conventions.isEntryPoint attr.name

section

variable (keep : Attribute → Bool)

/-- A parameter with some of its attributes. -/
def Parameter.trim (param : Parameter) : Parameter :=
  { param with attributes := param.attributes.filter keep }

/-- A member with some of its attributes. -/
def Member.trim (member : Member) : Member :=
  { member with attributes := member.attributes.filter keep }

/-- A method with some of its own attributes and some of those of its parameters. -/
def Method.trim (method : Method) : Method :=
  { method with
    attributes := method.attributes.filter keep
    params := method.params.map (·.trim keep) }

/-- A type without methods and with some of the attributes of its members. -/
def DeclaredType.trim (type : DeclaredType) : DeclaredType :=
  { type with members := type.members.map (·.trim keep), methods := [] }

/-- A function with some of its attributes, of types without methods. -/
def ScannedFunction.trim (function : ScannedFunction) : ScannedFunction :=
  { function with
    owner := function.owner.trim keep
    method := function.method.trim keep
    returnDeclaration := function.returnDeclaration.map (·.trim keep) }

end

variable {catalog : Catalog} {conventions : Conventions}

/-- An idle attribute is unknown to the catalog and marks no entry point. -/
theorem Catalog.isActive_eq_false_iff {attr : Attribute} :
    catalog.isActive conventions attr = false ↔
      catalog.lookup? attr.name = none ∧ catalog.isLegacy attr.name = false ∧
        conventions.isEntryPoint attr.name = false := by
  simp only [isActive, Bool.or_eq_false_iff, Option.isSome_eq_false_iff, Option.isNone_iff_eq_none,
    and_assoc]

/-- An attribute that marks an entry point is active. -/
theorem Catalog.isActive_of_isEntryPoint {attr : Attribute}
    (h : conventions.isEntryPoint attr.name = true) : catalog.isActive conventions attr = true := by
  rw [isActive, h, Bool.or_true]

/-- The catalog finds the same bindings without idle attributes. -/
theorem Catalog.recognize_filter_isActive (attributes : List Attribute) :
    catalog.recognize (attributes.filter (catalog.isActive conventions)) =
      catalog.recognize attributes := by
  rw [recognize, recognize, List.filterMap_filter]
  refine List.filterMap_congr fun attr _ ↦ ?_
  cases hactive : catalog.isActive conventions attr with
  | true => rfl
  | false => simp [(isActive_eq_false_iff.1 hactive).1]

/-- The catalog finds the same legacy attributes without idle ones. -/
theorem Catalog.legacyAmong_filter_isActive (target : String) (attributes : List Attribute) :
    catalog.legacyAmong target (attributes.filter (catalog.isActive conventions)) =
      catalog.legacyAmong target attributes := by
  rw [legacyAmong, legacyAmong, List.filter_filter]
  congr 1
  refine List.filter_congr fun attr _ ↦ ?_
  cases hlegacy : catalog.isLegacy attr.name with
  | true => simp [isActive, hlegacy]
  | false => rfl

/-- A catalog reads attributes alike without idle ones. -/
theorem Catalog.readsAlike_filter_isActive (catalog : Catalog) (attributes : List Attribute) :
    catalog.ReadsAlike (attributes.filter (catalog.isActive conventions)) attributes :=
  ⟨recognize_filter_isActive attributes,
    fun target ↦ legacyAmong_filter_isActive target attributes⟩

namespace Method

/-- A method without idle attributes is a candidate if it was one. -/
theorem isCandidate_trim (method : Method) :
    (method.trim (catalog.isActive conventions)).isCandidate conventions =
      method.isCandidate conventions := by
  rw [Bool.eq_iff_iff]
  simp only [isCandidate, trim, List.any_eq_true, List.mem_filter]
  constructor
  · rintro ⟨attr, ⟨hattr, -⟩, hentry⟩
    exact ⟨attr, hattr, hentry⟩
  · rintro ⟨attr, hattr, hentry⟩
    exact ⟨attr, ⟨hattr, Catalog.isActive_of_isEntryPoint hentry⟩, hentry⟩

/-- A method without idle attributes has the same name. -/
theorem functionName?_trim (method : Method) :
    (method.trim (catalog.isActive conventions)).functionName? conventions =
      method.functionName? conventions := by
  have hfirst : (method.attributes.filter (catalog.isActive conventions)).find?
        (fun attr ↦ conventions.isEntryPoint attr.name) =
      method.attributes.find? fun attr ↦ conventions.isEntryPoint attr.name := by
    rw [List.find?_filter]
    refine List.find?_congr fun attr _ ↦ ?_
    rw [Bool.eq_iff_iff, decide_eq_true_iff]
    exact and_iff_right_of_imp Catalog.isActive_of_isEntryPoint
  simp only [functionName?, trim, hfirst]

end Method

namespace ScannedFunction

variable (function : ScannedFunction)

/-- The members of the return type keep their order and lose attributes only. -/
theorem returnMembers_trim (keep : Attribute → Bool) :
    (function.trim keep).returnMembers = function.returnMembers.map (·.trim keep) := by
  simp only [returnMembers, trim]
  cases function.returnDeclaration <;> rfl

/-- Without idle attributes, a function looks as before. -/
theorem looksLike_trim :
    (function.trim (catalog.isActive conventions)).LooksLike catalog conventions function := by
  refine ⟨rfl, rfl, rfl, rfl, rfl, catalog.readsAlike_filter_isActive _, rfl, ?_, rfl, rfl, ?_⟩
  · simp only [trim, Method.trim, List.forall₂_map_left_iff, List.forall₂_same]
    exact fun param _ ↦ ⟨rfl, catalog.readsAlike_filter_isActive _, rfl⟩
  · rw [returnMembers_trim, List.forall₂_map_left_iff, List.forall₂_same]
    exact fun member _ ↦ ⟨rfl, catalog.readsAlike_filter_isActive _, rfl, rfl, rfl⟩

/-- Without idle attributes, a function adds the same to a report. -/
theorem contribution_trim (assembly : String) :
    (function.trim (catalog.isActive conventions)).contribution catalog conventions assembly =
      function.contribution catalog conventions assembly :=
  function.looksLike_trim.contribution_eq assembly

end ScannedFunction

end FunctionBindings
