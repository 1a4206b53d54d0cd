import FunctionBindings.Proofs.Model.TypeNames
import FunctionBindings.Proofs.Scan.TypeLookup

/-!
# Programs with other aliases

Programs are the same up to aliases if keywords and framework names change places in the types of
parameters, of members and of return values (`Program.SameUpToAliases`). A lookup of a declared type
goes by the path as it is written, so it could tell them apart, but not if no declared type has the
name of an alias (`Program.DeclaresNoAlias`). Then a scan has the same errors and the same functions
up to aliases: `Program.SameUpToAliases.forall₂_scanOutcomes`.
-/

namespace FunctionBindings

/-- True of parameters that are the same up to aliases in the type. -/
structure Parameter.SameUpToAliases (param other : Parameter) : Prop where
  name : param.name = other.name
  type : param.type.SameUpToAliases other.type
  attributes : param.attributes = other.attributes
  span : param.span = other.span

/-- True of members that are the same up to aliases in the type. -/
structure Member.SameUpToAliases (member other : Member) : Prop where
  name : member.name = other.name
  type : member.type.SameUpToAliases other.type
  attributes : member.attributes = other.attributes
  span : member.span = other.span

/-- True of methods that are the same up to aliases in the signature. -/
structure Method.SameUpToAliases (method other : Method) : Prop where
  name : method.name = other.name
  attributes : method.attributes = other.attributes
  params : List.Forall₂ Parameter.SameUpToAliases method.params other.params
  returnType : method.returnType.SameUpToAliases other.returnType
  span : method.span = other.span

/-- True of types that are the same up to aliases in members and methods. -/
structure DeclaredType.SameUpToAliases (type other : DeclaredType) : Prop where
  name : type.name = other.name
  namespaceName : type.namespaceName = other.namespaceName
  file : type.file = other.file
  members : List.Forall₂ Member.SameUpToAliases type.members other.members
  methods : List.Forall₂ Method.SameUpToAliases type.methods other.methods
  span : type.span = other.span

/-- True of programs that are the same up to aliases in their types. -/
structure Program.SameUpToAliases (program other : Program) : Prop where
  assembly : program.assembly = other.assembly
  attributeTypes : program.attributeTypes = other.attributeTypes
  types : List.Forall₂ DeclaredType.SameUpToAliases program.types other.types

/-- True of functions that are the same up to aliases in what they are made of. -/
structure ScannedFunction.SameUpToAliases (function other : ScannedFunction) : Prop where
  name : function.name = other.name
  entryPoint : function.entryPoint = other.entryPoint
  owner : function.owner.SameUpToAliases other.owner
  method : function.method.SameUpToAliases other.method
  returnDeclaration : Option.Rel DeclaredType.SameUpToAliases function.returnDeclaration
    other.returnDeclaration

/-- True of a program in which no type has the name of an alias, in short or in full. -/
def Program.DeclaresNoAlias (program : Program) : Prop :=
  ∀ type ∈ program.types, ¬ TypeRef.IsAlias type.name ∧ ¬ TypeRef.IsAlias type.fullName

instance (program : Program) : Decidable program.DeclaresNoAlias :=
  inferInstanceAs (Decidable (∀ type ∈ program.types, _ ∧ _))

namespace TypeIndex

/-- A path that no declared type has for a name points to none. -/
theorem position?_eq_none_of_notMem {types : List DeclaredType} {path : String}
    (h : ∀ type ∈ types, type.name ≠ path ∧ type.fullName ≠ path) (generics : List TypeRef) :
    (ofTypes types).position? (.named path generics) = none := by
  rw [Option.eq_none_iff_forall_ne_some]
  intro position hposition
  obtain ⟨found, hfound, hnames⟩ := exists_of_position?_ofTypes hposition
  obtain ⟨hname, hfull⟩ := h found (List.mem_of_getElem? hfound)
  obtain hfound | ⟨-, -, hfound, -⟩ := hnames
  · exact hfull hfound
  · exact hname hfound

/-- If no declared type has the name of an alias, references that are the same up to aliases point
to the same type. -/
theorem lookup?_eq_of_sameUpToAliases {program : Program} (hdeclared : program.DeclaresNoAlias)
    {type other : TypeRef} (h : type.SameUpToAliases other) :
    (ofTypes program.types).lookup? type = (ofTypes program.types).lookup? other := by
  have hnone : ∀ path generics, TypeRef.IsAlias path →
      (ofTypes program.types).position? (.named path generics) = none := by
    intro path generics hpath
    refine position?_eq_none_of_notMem (fun type htype ↦ ?_) generics
    obtain ⟨hname, hfull⟩ := hdeclared type htype
    exact ⟨fun heq ↦ hname (heq ▸ hpath), fun heq ↦ hfull (heq ▸ hpath)⟩
  cases h with
  | void | array | unresolved => rfl
  | @named path other generics others hsame =>
      obtain rfl | ⟨hpath, hother⟩ := hsame.eq_or_isAlias
      · rfl
      · rw [lookup?, lookup?, hnone path generics hpath, hnone other others hother]

/-- A declared type with the name of a keyword is found by the keyword alone. -/
example : let index := TypeIndex.ofTypes [DeclaredType.of "string"]
    (index.lookup? (.named "string" [])).isSome = true ∧
      (index.lookup? (.named "System.String" [])).isSome = false := ⟨rfl, rfl⟩

end TypeIndex

/-- Errors are compared in full, and functions up to aliases. -/
def aliasComparison : ScanComparison where
  errors := Eq
  functions := ScannedFunction.SameUpToAliases
  name_eq h := h.name
  entryPoint_eq h := h.entryPoint
  duplicate h first := by
    simp only [ScannedFunction.duplicateError, ScannedFunction.location, h.name, h.owner.name,
      h.owner.file, h.method.name, h.method.span]

namespace Program.SameUpToAliases

variable {program other : Program} {conventions : Conventions}

/-- With other aliases, a program has the same candidates up to aliases. -/
theorem forall₂_candidates (h : program.SameUpToAliases other) :
    List.Forall₂ (fun candidate candidate' ↦
        candidate.1.SameUpToAliases candidate'.1 ∧ candidate.2.SameUpToAliases candidate'.2)
      (program.candidates conventions) (other.candidates conventions) := by
  refine Program.forall₂_candidates_of (fun _ _ htype ↦ htype.methods)
    (fun method method' hmethod ↦ ?_) h.types
  rw [Method.isCandidate, Method.isCandidate, hmethod.attributes]

/-- Candidates that are the same up to aliases resolve alike. -/
theorem outcomes_resolveCandidate (h : program.SameUpToAliases other)
    (hdeclared : program.DeclaresNoAlias) {owner owner' : DeclaredType} {method method' : Method}
    (howner : owner.SameUpToAliases owner') (hmethod : method.SameUpToAliases method') :
    aliasComparison.Outcomes
      (resolveCandidate program.assembly conventions (.ofTypes program.types) owner method)
      (resolveCandidate other.assembly conventions (.ofTypes other.types) owner' method') := by
  have hname : method.functionName? conventions = method'.functionName? conventions := by
    rw [Method.functionName?, Method.functionName?, hmethod.attributes]
  have hlookup : Option.Rel DeclaredType.SameUpToAliases
      ((TypeIndex.ofTypes program.types).lookup? method.returnType)
      ((TypeIndex.ofTypes other.types).lookup? method'.returnType) := by
    rw [TypeIndex.lookup?_eq_of_sameUpToAliases hdeclared hmethod.returnType]
    exact TypeIndex.rel_lookup? (fun _ _ hsame ↦ ⟨hsame.name, hsame.namespaceName⟩) h.types _
  refine ScanComparison.outcomes_resolveCandidate_of hname hmethod.params
    (fun _ _ hparam ↦ hparam.name) (fun _ _ hparam ↦ hparam.type.firstUnresolved?_eq)
    hmethod.returnType.firstUnresolved?_eq (fun param param' hparam cause ↦ ?_)
    (fun cause ↦ ?_) fun name ↦ ⟨rfl, ?_, howner, hmethod, hlookup⟩
  · simp only [aliasComparison, howner.name, howner.file, hmethod.name, hparam.span]
  · simp only [aliasComparison, howner.name, howner.file, hmethod.name, hmethod.span]
  · simp only [h.assembly, howner.name, hmethod.name]

/-- With other aliases, a scan has the same errors and the same functions up to aliases. -/
theorem forall₂_scanOutcomes (h : program.SameUpToAliases other)
    (hdeclared : program.DeclaresNoAlias) :
    List.Forall₂ aliasComparison.Outcomes (program.scanOutcomes conventions)
      (other.scanOutcomes conventions) := by
  refine ScanComparison.forall₂_scanOutcomesFrom (h.forall₂_candidates.imp ?_) ∅
  rintro candidate candidate' ⟨howner, hmethod⟩
  exact h.outcomes_resolveCandidate hdeclared howner hmethod

end Program.SameUpToAliases

end FunctionBindings
