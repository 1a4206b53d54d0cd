import FunctionBindings.Binding.Builtin
import FunctionBindings.Proofs.Binding.Occurrences
import FunctionBindings.Proofs.Scan.Respelling

/-!
# Bindings of respelled functions

A respelled program has the same catalog (`Program.Respelled.forProgram_eq`). A respelled function
is classified alike, binding by binding (`ScannedFunction.Respelled.respelled_classify`), and the
rules report the same codes about it, in the same order (`map_code_validate`).
-/

namespace FunctionBindings

section Catalog

/-- An attribute type that is respelled is marked as legacy if it was. -/
theorem AttributeType.Respelled.isMarkedLegacy_eq {type other : AttributeType}
    (h : type.Respelled other) : Catalog.isMarkedLegacy type = Catalog.isMarkedLegacy other := by
  refine any_eq_of_forall₂ h.markers fun marker marker' hname ↦ ?_
  rw [hname]

/-- An attribute type that is respelled declares the same spec. -/
theorem AttributeType.Respelled.declaredSpec?_eq {type other : AttributeType}
    (h : type.Respelled other) : Catalog.declaredSpec? type = Catalog.declaredSpec? other := by
  have hname : type.simpleName = other.simpleName := h.name
  have hbase : type.base.bind Catalog.markedKind? = other.base.bind Catalog.markedKind? := by
    have hrel := h.base
    generalize type.base = base at hrel ⊢
    generalize other.base = base' at hrel ⊢
    cases hrel with
    | none => rfl
    | some hsame =>
        rw [Option.bind_some, Option.bind_some, Catalog.markedKind?, Catalog.markedKind?, hsame]
  rw [Catalog.declaredSpec?, Catalog.declaredSpec?, hbase, hname, h.constructors]

/-- A catalog takes in a respelled attribute type as it took in the original. -/
theorem AttributeType.Respelled.declare_eq {type other : AttributeType} (h : type.Respelled other)
    (catalog : Catalog) : catalog.declare type = catalog.declare other := by
  have hname : type.simpleName = other.simpleName := h.name
  rw [Catalog.declare, Catalog.declare, Catalog.noteLegacy, Catalog.noteLegacy,
    h.isMarkedLegacy_eq, h.declaredSpec?_eq, hname]

/-- A respelled program has the same catalog. -/
theorem Program.Respelled.forProgram_eq {program other : Program} (h : program.Respelled other) :
    Catalog.forProgram program = Catalog.forProgram other := by
  have htypes := h.attributeTypes
  unfold Catalog.forProgram
  generalize program.attributeTypes = types at htypes
  generalize other.attributeTypes = types' at htypes
  generalize Catalog.builtin = catalog
  induction htypes generalizing catalog with
  | nil => rfl
  | cons hfirst hrest ih => rw [List.foldl_cons, List.foldl_cons, hfirst.declare_eq, ih]

end Catalog

/-- True of origins that are the same up to the spelling of the attribute. -/
inductive BindingOrigin.Respelled : BindingOrigin → BindingOrigin → Prop where
  | declared {attr other : Attribute} (h : attr.Respelled other) (spec : BindingSpec) :
      Respelled (.declared attr spec) (.declared other spec)
  | httpResponse : Respelled .httpResponse .httpResponse

/-- True of bindings that are the same up to the spelling of the attribute and the place. -/
structure Binding.Respelled (binding other : Binding) : Prop where
  name : binding.name = other.name
  source : binding.source = other.source
  origin : binding.origin.Respelled other.origin
  direction : binding.direction = other.direction
  dataType : binding.dataType = other.dataType

namespace Binding

/-- Respelled attributes with the same spec declare respelled bindings. -/
theorem respelled_declared {attr other : Attribute} (h : attr.Respelled other) (spec : BindingSpec)
    (name : String) (source : BindingSource) (dataType : Option DataType) :
    (declared name source dataType attr spec).Respelled
      (declared name source dataType other spec) :=
  ⟨rfl, rfl, .declared h spec, rfl, rfl⟩

/-- HTTP responses of one name are the same up to their places. -/
theorem respelled_httpResponse (name : String) (span span' : Span) :
    (httpResponse name span).Respelled (httpResponse name span') :=
  ⟨rfl, rfl, .httpResponse, rfl, rfl⟩

/-- A respelled binding is an HTTP response if it was one. -/
theorem Respelled.isHttpResponse_eq {binding other : Binding} (h : binding.Respelled other) :
    binding.isHttpResponse = other.isHttpResponse := by
  have horigin := h.origin
  unfold isHttpResponse
  generalize binding.origin = origin at horigin ⊢
  generalize other.origin = origin' at horigin ⊢
  cases horigin <;> rfl

end Binding

section

variable {catalog : Catalog} {conventions : Conventions}

/-- The catalog finds the same specs for respelled attributes. -/
theorem Catalog.forall₂_recognize {attributes others : List Attribute}
    (h : List.Forall₂ Attribute.Respelled attributes others) :
    List.Forall₂ (fun entry entry' ↦ entry.1.Respelled entry'.1 ∧ entry.2 = entry'.2)
      (catalog.recognize attributes) (catalog.recognize others) := by
  refine List.rel_filterMap (fun attr attr' hattr ↦ ?_) h
  rw [lookup?, lookup?, hattr.name]
  cases catalog.specs.get? (simpleAttributeName attr'.name) with
  | none => exact .none
  | some spec => exact .some ⟨hattr, rfl⟩

/-- Respelled attributes declare respelled bindings. -/
theorem Catalog.forall₂_declared {attributes others : List Attribute}
    (h : List.Forall₂ Attribute.Respelled attributes others) (name : String)
    (source : BindingSource) (dataType : Option DataType) :
    List.Forall₂ Binding.Respelled
      ((catalog.recognize attributes).map fun entry ↦
        .declared name source dataType entry.1 entry.2)
      ((catalog.recognize others).map fun entry ↦
        .declared name source dataType entry.1 entry.2) := by
  rw [List.forall₂_map_left_iff, List.forall₂_map_right_iff]
  refine (forall₂_recognize h).imp fun entry entry' hsame ↦ ?_
  rw [hsame.2]
  exact Binding.respelled_declared hsame.1 _ _ _ _

/-- True of legacy attributes that are the same up to spelling and stand on the same. -/
def RespelledLegacy (entry other : Attribute × String) : Prop :=
  entry.1.Respelled other.1 ∧ entry.2 = other.2

/-- Respelled attributes are legacy if the originals are. -/
theorem Catalog.forall₂_legacyAmong {attributes others : List Attribute}
    (h : List.Forall₂ Attribute.Respelled attributes others) (target : String) :
    List.Forall₂ RespelledLegacy (catalog.legacyAmong target attributes)
      (catalog.legacyAmong target others) := by
  unfold legacyAmong
  rw [List.forall₂_map_left_iff, List.forall₂_map_right_iff]
  refine (forall₂_filter h fun attr attr' hattr ↦ ?_).imp fun _ _ hattr ↦ ⟨hattr, rfl⟩
  rw [isLegacy, isLegacy, hattr.name]

/-- True of classifications that are the same up to the spelling of attributes and to places. -/
structure Classification.Respelled (classification other : Classification) : Prop where
  bindings : List.Forall₂ Binding.Respelled classification.bindings other.bindings
  hasHttpTrigger : classification.hasHttpTrigger = other.hasHttpTrigger
  legacy : List.Forall₂ RespelledLegacy classification.legacy other.legacy

namespace ScannedFunction.Respelled

variable {function other : ScannedFunction} (h : function.Respelled other)

include h

/-- The return type of a respelled function has respelled members. -/
theorem forall₂_returnMembers :
    List.Forall₂ Member.Respelled function.returnMembers other.returnMembers :=
  forall₂_returnMembers_of (fun _ _ htype ↦ htype.members) h.returnDeclaration

/-- A respelled function has an HTTP trigger if it had one. -/
theorem hasHttpTrigger_eq : function.hasHttpTrigger catalog = other.hasHttpTrigger catalog := by
  refine any_eq_of_forall₂ h.method.params fun param param' hparam ↦ ?_
  refine any_eq_of_forall₂ (Catalog.forall₂_recognize hparam.attributes) fun _ _ hsame ↦ ?_
  rw [hsame.2]

/-- The method of a respelled function declares respelled bindings. -/
theorem forall₂_methodBindings :
    List.Forall₂ Binding.Respelled (function.methodBindings catalog)
      (other.methodBindings catalog) := by
  unfold methodBindings
  rw [List.forall₂_map_left_iff, List.forall₂_map_right_iff]
  refine (forall₂_filter (Catalog.forall₂_recognize h.method.attributes)
    fun entry entry' hsame ↦ ?_).imp fun entry entry' hsame ↦ ?_
  · rw [hsame.2]
  · rw [hsame.2]
    exact Binding.respelled_declared hsame.1 _ _ _ _

/-- The parameters of a respelled function declare respelled bindings. -/
theorem forall₂_parameterBindings :
    List.Forall₂ Binding.Respelled (function.parameterBindings catalog conventions)
      (other.parameterBindings catalog conventions) := by
  refine List.rel_flatMap h.method.params fun param param' hparam ↦ ?_
  rw [bindingsOfParameter, bindingsOfParameter, hparam.name, hparam.type]
  exact Catalog.forall₂_declared hparam.attributes _ _ _

/-- The return type of a respelled function carries respelled bindings. -/
theorem forall₂_returnBindings :
    List.Forall₂ Binding.Respelled (function.returnBindings catalog conventions)
      (other.returnBindings catalog conventions) := by
  have hresponse := Binding.respelled_httpResponse returnBindingName function.method.span
    other.method.span
  have hdeclared : List.Forall₂ Binding.Respelled
      (function.returnMembers.flatMap (bindingsOfMember catalog conventions))
      (other.returnMembers.flatMap (bindingsOfMember catalog conventions)) := by
    refine List.rel_flatMap h.forall₂_returnMembers fun member member' hmember ↦ ?_
    rw [bindingsOfMember, bindingsOfMember, hmember.name, hmember.type]
    split
    · exact .cons (Binding.respelled_httpResponse _ _ _) .nil
    · exact Catalog.forall₂_declared hmember.attributes _ _ _
  have houtput : (function.returnMembers.flatMap (bindingsOfMember catalog conventions)).any
        (·.direction = .output) =
      (other.returnMembers.flatMap (bindingsOfMember catalog conventions)).any
        (·.direction = .output) :=
    any_eq_of_forall₂ hdeclared fun _ _ hsame ↦ by rw [hsame.direction]
  simp only [returnBindings, h.method.returnType, houtput, h.hasHttpTrigger_eq]
  split
  · exact .nil
  · split
    · exact .cons hresponse .nil
    · split
      · exact hdeclared
      · split
        · exact List.rel_append hdeclared (.cons hresponse .nil)
        · exact hdeclared

/-- The legacy attributes of a respelled function are the respelled ones, in the same order. -/
theorem forall₂_legacyAttributes :
    List.Forall₂ RespelledLegacy (function.legacyAttributes catalog conventions)
      (other.legacyAttributes catalog conventions) := by
  have hmembers : List.Forall₂ Member.Respelled (function.consideredMembers conventions)
      (other.consideredMembers conventions) := by
    rw [consideredMembers, consideredMembers, h.method.returnType]
    split
    · exact .nil
    · exact h.forall₂_returnMembers
  unfold legacyAttributes
  rw [h.method.name]
  refine List.rel_append (List.rel_append (Catalog.forall₂_legacyAmong h.method.attributes _) ?_) ?_
  · refine List.rel_flatMap h.method.params fun param param' hparam ↦ ?_
    rw [hparam.name]
    exact Catalog.forall₂_legacyAmong hparam.attributes _
  · refine List.rel_flatMap hmembers fun member member' hmember ↦ ?_
    rw [hmember.name, hmember.type]
    split
    · exact .nil
    · exact Catalog.forall₂_legacyAmong hmember.attributes _

/-- A respelled function is classified alike. -/
theorem respelled_classify :
    (function.classify catalog conventions).Respelled (other.classify catalog conventions) where
  bindings := List.rel_append
    (List.rel_append h.forall₂_methodBindings h.forall₂_parameterBindings)
    h.forall₂_returnBindings
  hasHttpTrigger := h.hasHttpTrigger_eq
  legacy := h.forall₂_legacyAttributes

end ScannedFunction.Respelled

end

/-- What picks bindings by earlier ones picks the same of respelled ones, if it goes by what both
have in common. -/
theorem forall₂_selectAfter {relation : List Binding → Binding → Bool}
    (hrelation : ∀ {earlier earlier' : List Binding} {binding binding' : Binding},
      List.Forall₂ Binding.Respelled earlier earlier' → binding.Respelled binding' →
        relation earlier binding = relation earlier' binding')
    {earlier earlier' bindings bindings' : List Binding}
    (hearlier : List.Forall₂ Binding.Respelled earlier earlier')
    (h : List.Forall₂ Binding.Respelled bindings bindings') :
    List.Forall₂ Binding.Respelled (selectAfter relation earlier bindings)
      (selectAfter relation earlier' bindings') := by
  -- Each binding joins the earlier ones for the rest, hence the general lists of earlier ones.
  induction h generalizing earlier earlier' with
  | nil => exact .nil
  | cons hfirst hrest ih =>
      have hlater := ih (List.rel_append hearlier (.cons hfirst .nil))
      rw [selectAfter_cons, selectAfter_cons, hrelation hearlier hfirst]
      split
      · exact .cons hfirst hlater
      · exact hlater

/-- A respelled binding is the second of its name among respelled ones if it was. -/
theorem isSecond_eq {earlier earlier' : List Binding} {binding binding' : Binding}
    (hearlier : List.Forall₂ Binding.Respelled earlier earlier') (h : binding.Respelled binding') :
    isSecond earlier binding = isSecond earlier' binding' := by
  rw [isSecond, isSecond, List.countP_eq_length_filter, List.countP_eq_length_filter]
  rw [(forall₂_filter hearlier fun other other' hother ↦ ?_).length_eq]
  rw [hother.name, h.name]

/-- A respelled binding repeats a name of respelled ones if it did. -/
theorem isRepeat_eq {earlier earlier' : List Binding} {binding binding' : Binding}
    (hearlier : List.Forall₂ Binding.Respelled earlier earlier') (h : binding.Respelled binding') :
    isRepeat earlier binding = isRepeat earlier' binding' :=
  any_eq_of_forall₂ hearlier fun other other' hother ↦ by rw [hother.name, h.name]

section Rules

variable {classification other : Classification} (h : classification.Respelled other)
  (function function' : ScannedFunction)

include h

/-- The rule for outputs on the method reports alike. -/
theorem map_code_checkMethodOutputs :
    (function.checkMethodOutputs classification).map (·.code) =
      (function'.checkMethodOutputs other).map (·.code) := by
  have houtputs : List.Forall₂ Binding.Respelled classification.methodOutputs
      other.methodOutputs :=
    forall₂_filter h.bindings fun _ _ hsame ↦ by rw [hsame.source]
  unfold ScannedFunction.checkMethodOutputs
  generalize classification.methodOutputs = outputs at houtputs ⊢
  generalize other.methodOutputs = outputs' at houtputs ⊢
  cases houtputs with
  | nil => rfl
  | cons _ hrest => cases hrest <;> rfl

/-- The rule for HTTP responses reports alike. -/
theorem map_code_checkHttpResponses :
    (function.checkHttpResponses classification).map (·.code) =
      (function'.checkHttpResponses other).map (·.code) := by
  have hresponses : List.Forall₂ Binding.Respelled classification.httpResponses
      other.httpResponses :=
    forall₂_filter h.bindings fun _ _ hsame ↦ hsame.isHttpResponse_eq
  unfold ScannedFunction.checkHttpResponses
  generalize classification.httpResponses = responses at hresponses ⊢
  generalize other.httpResponses = responses' at hresponses ⊢
  cases hresponses with
  | nil => rfl
  | cons _ hrest => cases hrest <;> rfl

/-- The rule for members of the return type reports alike. -/
theorem map_code_checkMemberOutputs :
    (function.checkMemberOutputs classification).map (·.code) =
      (function'.checkMemberOutputs other).map (·.code) := by
  have hmembers := forall₂_filter h.bindings (p := (·.source = .member))
    (q := (·.source = .member)) fun _ _ hsame ↦ by rw [hsame.source]
  rw [ScannedFunction.checkMemberOutputs, ScannedFunction.checkMemberOutputs, atOccurrence_two,
    atOccurrence_two, List.map_map, List.map_map]
  exact map_eq_of_forall₂ (forall₂_selectAfter isSecond_eq .nil hmembers) fun _ _ _ ↦ rfl

/-- The rule for constructors reports alike. -/
theorem map_code_checkConstructors :
    (function.checkConstructors classification).map (·.code) =
      (function'.checkConstructors other).map (·.code) := by
  have herrors : List.Forall₂ (fun error error' : CheckError ↦ error.code = error'.code)
      (function.checkConstructors classification) (function'.checkConstructors other) := by
    refine List.rel_filterMap (fun binding binding' hsame ↦ ?_) h.bindings
    have horigin := hsame.origin
    unfold ScannedFunction.checkConstructor
    generalize binding.origin = origin at horigin ⊢
    generalize binding'.origin = origin' at horigin ⊢
    cases horigin with
    | httpResponse => exact .none
    | declared hattr spec =>
        dsimp only
        rw [hattr.arguments]
        split
        · exact .none
        · exact .some rfl
  exact map_eq_of_forall₂ herrors fun _ _ hcode ↦ hcode

/-- The rule for names reports alike. -/
theorem map_code_checkUniqueNames :
    (function.checkUniqueNames classification).map (·.code) =
      (function'.checkUniqueNames other).map (·.code) := by
  have hnamed := forall₂_filter h.bindings (p := (·.name ≠ returnBindingName))
    (q := (·.name ≠ returnBindingName)) fun _ _ hsame ↦ by rw [hsame.name]
  rw [ScannedFunction.checkUniqueNames, ScannedFunction.checkUniqueNames,
    repeated_eq_selectAfter, repeated_eq_selectAfter, List.map_map, List.map_map]
  exact map_eq_of_forall₂ (forall₂_selectAfter isRepeat_eq .nil hnamed) fun _ _ _ ↦ rfl

/-- As many legacy attributes are reported. -/
theorem map_code_checkLegacy :
    (function.checkLegacy classification).map (·.code) =
      (function'.checkLegacy other).map (·.code) := by
  rw [ScannedFunction.checkLegacy, ScannedFunction.checkLegacy, List.map_map, List.map_map]
  exact map_eq_of_forall₂ h.legacy fun _ _ _ ↦ rfl

/-- All rules together report the same codes, in the same order. -/
theorem map_code_validate :
    (function.validate classification).map (·.code) = (function'.validate other).map (·.code) := by
  have hshape : (function.checkShape classification).map (·.code) =
      (function'.checkShape other).map (·.code) := by
    simp only [ScannedFunction.checkShape, List.map_append,
      map_code_checkMethodOutputs h function function',
      map_code_checkMemberOutputs h function function',
      map_code_checkHttpResponses h function function',
      map_code_checkConstructors h function function']
  have hempty : (function.checkShape classification).isEmpty =
      (function'.checkShape other).isEmpty := by
    rw [← List.isEmpty_map (f := CheckError.code), hshape, List.isEmpty_map]
  simp only [ScannedFunction.validate, List.map_append, hshape, hempty, apply_ite (List.map _),
    map_code_checkUniqueNames h function function', map_code_checkLegacy h function function']

end Rules

end FunctionBindings
