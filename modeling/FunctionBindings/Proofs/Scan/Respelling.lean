import FunctionBindings.Proofs.Scan.Comparison

/-!
# Respelled programs

A program is respelled if the names of attributes, of attribute types, of their ancestors and of
their markers are written in another way with the same simple form, and if what it declares moves to
other places and files (`Program.Respelled`). A scan of the respelled program has the same causes of
errors and the same functions up to their spelling: `Program.Respelled.forall₂_scanOutcomes`.
-/

namespace FunctionBindings

/-- True of names of attributes that have the same simple form. -/
def SameSimpleName (name other : String) : Prop :=
  simpleAttributeName name = simpleAttributeName other

instance (name other : String) : Decidable (SameSimpleName name other) :=
  inferInstanceAs (Decidable (simpleAttributeName name = simpleAttributeName other))

/-- True of attributes that are the same up to the spelling of the name and the place. -/
structure Attribute.Respelled (attr other : Attribute) : Prop where
  name : SameSimpleName attr.name other.name
  arguments : attr.arguments = other.arguments
  namedArguments : attr.namedArguments = other.namedArguments

/-- True of attribute types that are the same up to the spelling of names and the place. -/
structure AttributeType.Respelled (type other : AttributeType) : Prop where
  name : SameSimpleName type.name other.name
  base : Option.Rel SameSimpleName type.base other.base
  constructors : type.constructors = other.constructors
  markers : List.Forall₂ SameSimpleName type.markers other.markers

/-- True of parameters that are the same up to spelling and places. -/
structure Parameter.Respelled (param other : Parameter) : Prop where
  name : param.name = other.name
  type : param.type = other.type
  attributes : List.Forall₂ Attribute.Respelled param.attributes other.attributes

/-- True of members that are the same up to spelling and places. -/
structure Member.Respelled (member other : Member) : Prop where
  name : member.name = other.name
  type : member.type = other.type
  attributes : List.Forall₂ Attribute.Respelled member.attributes other.attributes

/-- True of methods that are the same up to spelling and places. -/
structure Method.Respelled (method other : Method) : Prop where
  name : method.name = other.name
  attributes : List.Forall₂ Attribute.Respelled method.attributes other.attributes
  params : List.Forall₂ Parameter.Respelled method.params other.params
  returnType : method.returnType = other.returnType

/-- True of types that are the same up to spelling, places and the file. -/
structure DeclaredType.Respelled (type other : DeclaredType) : Prop where
  name : type.name = other.name
  namespaceName : type.namespaceName = other.namespaceName
  members : List.Forall₂ Member.Respelled type.members other.members
  methods : List.Forall₂ Method.Respelled type.methods other.methods

/-- True of programs that are the same up to the spelling of attributes and attribute types, places
and files. -/
structure Program.Respelled (program other : Program) : Prop where
  assembly : program.assembly = other.assembly
  attributeTypes : List.Forall₂ AttributeType.Respelled program.attributeTypes other.attributeTypes
  types : List.Forall₂ DeclaredType.Respelled program.types other.types

/-- True of functions that are the same up to spelling, places and files. -/
structure ScannedFunction.Respelled (function other : ScannedFunction) : Prop where
  name : function.name = other.name
  entryPoint : function.entryPoint = other.entryPoint
  owner : function.owner.Respelled other.owner
  method : function.method.Respelled other.method
  returnDeclaration :
    Option.Rel DeclaredType.Respelled function.returnDeclaration other.returnDeclaration

variable {conventions : Conventions}

/-- A respelled attribute marks an entry point if it did. -/
theorem Attribute.Respelled.isEntryPoint_eq {attr other : Attribute} (h : attr.Respelled other) :
    conventions.isEntryPoint attr.name = conventions.isEntryPoint other.name := by
  rw [Conventions.isEntryPoint, Conventions.isEntryPoint, h.name]

namespace Method.Respelled

variable {method other : Method} (h : method.Respelled other)

include h

/-- A respelled method is a candidate if it was one. -/
theorem isCandidate_eq : method.isCandidate conventions = other.isCandidate conventions :=
  any_eq_of_forall₂ h.attributes fun _ _ ↦ Attribute.Respelled.isEntryPoint_eq

/-- A respelled method has the same function name. -/
theorem functionName?_eq : method.functionName? conventions = other.functionName? conventions := by
  have hfirst : Option.Rel Attribute.Respelled
      (method.attributes.find? fun attr ↦ conventions.isEntryPoint attr.name)
      (other.attributes.find? fun attr ↦ conventions.isEntryPoint attr.name) := by
    rw [← List.head?_filter, ← List.head?_filter, List.head?_eq_getElem?, List.head?_eq_getElem?]
    exact rel_getElem? (forall₂_filter h.attributes fun _ _ ↦ Attribute.Respelled.isEntryPoint_eq) 0
  unfold Method.functionName?
  generalize (method.attributes.find? fun attr ↦ conventions.isEntryPoint attr.name) = first
    at hfirst ⊢
  generalize (other.attributes.find? fun attr ↦ conventions.isEntryPoint attr.name) = second
    at hfirst ⊢
  cases hfirst with
  | none => rfl
  | some hattr => simp only [Option.bind_eq_bind, Option.bind_some, hattr.arguments]

end Method.Respelled

/-- Errors are compared by their causes, and functions up to spelling. -/
def respelledComparison : ScanComparison where
  errors error other := error.cause = other.cause
  functions := ScannedFunction.Respelled
  name_eq h := h.name
  entryPoint_eq h := h.entryPoint
  duplicate h first := by simp only [ScannedFunction.duplicateError, h.name]

/-- Respelled candidates resolve alike among respelled types. -/
theorem respelled_resolveCandidate {assembly : String} {types types' : List DeclaredType}
    (htypes : List.Forall₂ DeclaredType.Respelled types types')
    {owner owner' : DeclaredType} {method method' : Method} (howner : owner.Respelled owner')
    (hmethod : method.Respelled method') :
    respelledComparison.Outcomes
      (resolveCandidate assembly conventions (.ofTypes types) owner method)
      (resolveCandidate assembly conventions (.ofTypes types') owner' method') := by
  refine ScanComparison.outcomes_resolveCandidate_of hmethod.functionName?_eq hmethod.params
    (fun _ _ h ↦ h.name) (fun _ _ h ↦ by rw [h.type]) (by rw [hmethod.returnType])
    (fun _ _ _ _ ↦ rfl) (fun _ ↦ rfl) fun name ↦ ⟨rfl, ?_, howner, hmethod, ?_⟩
  · simp only [howner.name, hmethod.name]
  · simp only [hmethod.returnType]
    exact TypeIndex.rel_lookup? (fun _ _ h ↦ ⟨h.name, h.namespaceName⟩) htypes _

namespace Program.Respelled

variable {program other : Program} (h : program.Respelled other)

include h

/-- A respelled program has the same candidates, up to spelling. -/
theorem forall₂_candidates :
    List.Forall₂ (fun candidate candidate' ↦
        candidate.1.Respelled candidate'.1 ∧ candidate.2.Respelled candidate'.2)
      (program.candidates conventions) (other.candidates conventions) :=
  Program.forall₂_candidates_of (fun _ _ htype ↦ htype.methods)
    (fun _ _ hmethod ↦ hmethod.isCandidate_eq) h.types

/-- A scan of a respelled program has the same causes of errors and the same functions, up to
spelling. -/
theorem forall₂_scanOutcomes :
    List.Forall₂ respelledComparison.Outcomes (program.scanOutcomes conventions)
      (other.scanOutcomes conventions) := by
  refine ScanComparison.forall₂_scanOutcomesFrom (h.forall₂_candidates.imp ?_) ∅
  rintro candidate candidate' ⟨howner, hmethod⟩
  rw [h.assembly]
  exact respelled_resolveCandidate h.types howner hmethod

end Program.Respelled

end FunctionBindings
