import FunctionBindings.Proofs.Generation.Contributions
import FunctionBindings.Proofs.Scan.Comparison

/-!
# Functions that look alike

A catalog reads attributes for what they bind and for what is legacy, and conventions tell types
apart by the hints for parameters and members, by whether a return type is void, and by which types
are HTTP responses. Functions that differ in nothing else look alike: they are classified alike
(`LooksLike.classify_eq`) and add the same to a report (`LooksLike.contribution_eq`).
-/

namespace FunctionBindings

/-- Programs with the same attribute types have the same catalog. -/
theorem Catalog.forProgram_congr {program other : Program}
    (h : program.attributeTypes = other.attributeTypes) : forProgram program = forProgram other := by
  rw [forProgram, forProgram, h]

/-- True of attributes in which a catalog finds the same bindings and the same legacy attributes. -/
structure Catalog.ReadsAlike (catalog : Catalog) (attributes others : List Attribute) : Prop where
  recognized : catalog.recognize attributes = catalog.recognize others
  legacy : ∀ target, catalog.legacyAmong target attributes = catalog.legacyAmong target others

/-- Attributes are read like themselves. -/
theorem Catalog.readsAlike_of_eq (catalog : Catalog) {attributes others : List Attribute}
    (h : attributes = others) : catalog.ReadsAlike attributes others := by
  subst h
  exact ⟨rfl, fun _ ↦ rfl⟩

/-- True of parameters that a catalog and conventions do not tell apart. -/
structure Parameter.LooksLike (catalog : Catalog) (conventions : Conventions)
    (param other : Parameter) : Prop where
  name : param.name = other.name
  attributes : catalog.ReadsAlike param.attributes other.attributes
  hint : conventions.dataType? param.type = conventions.dataType? other.type

/-- True of members that a catalog and conventions do not tell apart. -/
structure Member.LooksLike (catalog : Catalog) (conventions : Conventions)
    (member other : Member) : Prop where
  name : member.name = other.name
  attributes : catalog.ReadsAlike member.attributes other.attributes
  span : member.span = other.span
  response : conventions.isHttpResponse member.type = conventions.isHttpResponse other.type
  hint : conventions.dataType? member.type = conventions.dataType? other.type

namespace ScannedFunction

/-- True of functions that a catalog and conventions do not tell apart. -/
structure LooksLike (catalog : Catalog) (conventions : Conventions)
    (function other : ScannedFunction) : Prop where
  name : function.name = other.name
  entryPoint : function.entryPoint = other.entryPoint
  owner : function.owner.name = other.owner.name
  file : function.owner.file = other.owner.file
  methodName : function.method.name = other.method.name
  methodAttributes : catalog.ReadsAlike function.method.attributes other.method.attributes
  methodSpan : function.method.span = other.method.span
  params : List.Forall₂ (Parameter.LooksLike catalog conventions) function.method.params
    other.method.params
  returnVoid : function.method.returnType.isVoid = other.method.returnType.isVoid
  returnResponse : conventions.isHttpResponse function.method.returnType =
    conventions.isHttpResponse other.method.returnType
  members : List.Forall₂ (Member.LooksLike catalog conventions) function.returnMembers
    other.returnMembers

namespace LooksLike

variable {catalog : Catalog} {conventions : Conventions} {function other : ScannedFunction}
  (h : function.LooksLike catalog conventions other)

include h

/-- The methods of functions that look alike declare the same bindings. -/
theorem methodBindings_eq : function.methodBindings catalog = other.methodBindings catalog := by
  rw [methodBindings, methodBindings, h.methodAttributes.recognized]

/-- The parameters of functions that look alike declare the same bindings. -/
theorem parameterBindings_eq :
    function.parameterBindings catalog conventions =
      other.parameterBindings catalog conventions := by
  refine flatMap_eq_of_forall₂ h.params fun param param' hparam ↦ ?_
  rw [bindingsOfParameter, bindingsOfParameter, hparam.name, hparam.attributes.recognized,
    hparam.hint]

/-- A function has an HTTP trigger if one that looks alike has one. -/
theorem hasHttpTrigger_eq : function.hasHttpTrigger catalog = other.hasHttpTrigger catalog := by
  refine any_eq_of_forall₂ h.params fun param param' hparam ↦ ?_
  rw [hparam.attributes.recognized]

/-- The return types of functions that look alike carry the same bindings. -/
theorem returnBindings_eq :
    function.returnBindings catalog conventions = other.returnBindings catalog conventions := by
  have hmembers : function.returnMembers.flatMap (bindingsOfMember catalog conventions) =
      other.returnMembers.flatMap (bindingsOfMember catalog conventions) := by
    refine flatMap_eq_of_forall₂ h.members fun member member' hmember ↦ ?_
    rw [bindingsOfMember, bindingsOfMember, hmember.name, hmember.attributes.recognized,
      hmember.span, hmember.response, hmember.hint]
  simp only [returnBindings, h.returnVoid, h.returnResponse, h.methodSpan, hmembers,
    h.hasHttpTrigger_eq]

/-- Of functions that look alike, members that look alike are looked at. -/
theorem forall₂_consideredMembers :
    List.Forall₂ (Member.LooksLike catalog conventions) (function.consideredMembers conventions)
      (other.consideredMembers conventions) := by
  rw [consideredMembers, consideredMembers, h.returnVoid, h.returnResponse]
  split
  · exact .nil
  · exact h.members

/-- Functions that look alike have the same legacy attributes. -/
theorem legacyAttributes_eq :
    function.legacyAttributes catalog conventions =
      other.legacyAttributes catalog conventions := by
  have hparams : (function.method.params.flatMap fun param ↦
        catalog.legacyAmong param.name param.attributes) =
      other.method.params.flatMap fun param ↦
        catalog.legacyAmong param.name param.attributes := by
    refine flatMap_eq_of_forall₂ h.params fun param param' hparam ↦ ?_
    rw [hparam.name, hparam.attributes.legacy]
  have hmembers : ((function.consideredMembers conventions).flatMap fun member ↦
        if conventions.isHttpResponse member.type then []
        else catalog.legacyAmong member.name member.attributes) =
      (other.consideredMembers conventions).flatMap fun member ↦
        if conventions.isHttpResponse member.type then []
        else catalog.legacyAmong member.name member.attributes := by
    refine flatMap_eq_of_forall₂ h.forall₂_consideredMembers fun member member' hmember ↦ ?_
    rw [hmember.name, hmember.attributes.legacy, hmember.response]
  rw [legacyAttributes, legacyAttributes, h.methodName, h.methodAttributes.legacy, hparams,
    hmembers]

/-- Functions that look alike are classified alike. -/
theorem classify_eq :
    function.classify catalog conventions = other.classify catalog conventions := by
  rw [classify, classify, h.methodBindings_eq, h.parameterBindings_eq, h.returnBindings_eq,
    h.hasHttpTrigger_eq, h.legacyAttributes_eq]

/-- The rules report the same about functions that look alike. -/
theorem validate_eq (found : Classification) : function.validate found = other.validate found := by
  have herror : function.error = other.error := by
    funext span cause
    rw [error, error, locate, locate, h.name, h.owner, h.file, h.methodSpan]
  have hconstructor : function.checkConstructor = other.checkConstructor := by
    funext binding
    rw [checkConstructor, checkConstructor, herror]
  have hshape : function.checkShape found = other.checkShape found := by
    rw [checkShape, checkShape, checkMethodOutputs, checkMethodOutputs, checkMemberOutputs,
      checkMemberOutputs, checkHttpResponses, checkHttpResponses, checkConstructors,
      checkConstructors, herror, hconstructor]
  rw [validate, validate, hshape, checkUniqueNames, checkUniqueNames, checkLegacy, checkLegacy,
    herror]

/-- Functions that look alike have the same record. -/
theorem fullRecord_eq (assembly : String) :
    function.fullRecord catalog conventions assembly =
      other.fullRecord catalog conventions assembly := by
  rw [fullRecord, fullRecord, h.name, h.entryPoint, h.classify_eq]

/-- Functions that look alike add the same to a report. -/
theorem contribution_eq (assembly : String) :
    function.contribution catalog conventions assembly =
      other.contribution catalog conventions assembly := by
  have hreported : function.reported catalog conventions = other.reported catalog conventions := by
    rw [reported, reported, h.classify_eq, h.validate_eq]
  rw [contribution, contribution, hreported, h.fullRecord_eq]

end LooksLike

end ScannedFunction

end FunctionBindings
