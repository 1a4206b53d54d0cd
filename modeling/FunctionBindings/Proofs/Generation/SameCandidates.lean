import FunctionBindings.Proofs.Generation.Comparison
import FunctionBindings.Proofs.Generation.IdleAttributes

/-!
# Programs with the same candidates

Two programs may declare different methods and idle attributes and still have the same candidates,
taken by their active attributes alone. Such candidates resolve alike (`outcomes_resolveCandidate`),
their functions add the same (`contributionOf_eq_of_trim_eq`), and so they have the same report:
`generate_of_sameCandidates`.
-/

namespace FunctionBindings

variable {catalog : Catalog} {conventions : Conventions}

/-- Errors are compared in full, and functions without some attributes and without whatever else
their types declare. -/
def trimmedComparison (keep : Attribute → Bool) : ScanComparison where
  errors := Eq
  functions function other := function.trim keep = other.trim keep
  name_eq h := congrArg (·.name) h
  entryPoint_eq h := congrArg (·.entryPoint) h
  duplicate h first := congrArg (·.duplicateError first) h

/-- Candidates resolve alike if they are the same, idle attributes apart, and if what their return
types declare is the same up to methods and idle attributes. -/
theorem outcomes_resolveCandidate {assembly : String} {index index' : TypeIndex}
    {owner owner' : DeclaredType} {method method' : Method}
    (howner : owner.trim (catalog.isActive conventions) =
      owner'.trim (catalog.isActive conventions))
    (hmethod : method.trim (catalog.isActive conventions) =
      method'.trim (catalog.isActive conventions))
    (hlookup : ∀ type, Option.Rel (fun type other ↦ type.trim (catalog.isActive conventions) =
      other.trim (catalog.isActive conventions)) (index.lookup? type) (index'.lookup? type)) :
    (trimmedComparison (catalog.isActive conventions)).Outcomes
      (resolveCandidate assembly conventions index owner method)
      (resolveCandidate assembly conventions index' owner' method') := by
  -- Whatever an error or a function takes from the candidate, trimming has left in it.
  have hownerName : owner.name = owner'.name := congrArg (·.name) howner
  have hfile : owner.file = owner'.file := congrArg (·.file) howner
  have hmethodName : method.name = method'.name := congrArg (·.name) hmethod
  have hspan : method.span = method'.span := congrArg (·.span) hmethod
  have hreturn : method.returnType = method'.returnType := congrArg (·.returnType) hmethod
  have hname : method.functionName? conventions = method'.functionName? conventions := by
    have htrimmed := congrArg (·.functionName? conventions) hmethod
    rwa [Method.functionName?_trim, Method.functionName?_trim] at htrimmed
  have hparams : List.Forall₂ (fun param param' : Parameter ↦
      param.trim (catalog.isActive conventions) = param'.trim (catalog.isActive conventions))
      method.params method'.params := by
    rw [← List.forall₂_map_right_iff, ← List.forall₂_map_left_iff, List.forall₂_eq_eq_eq]
    exact congrArg (·.params) hmethod
  have hdeclaration := hlookup method'.returnType
  refine ScanComparison.outcomes_resolveCandidate_of hname hparams
    (fun _ _ h ↦ congrArg (·.name) h) (fun _ _ h ↦ congrArg (·.type.firstUnresolved?) h)
    (by rw [hreturn]) (fun param param' h cause ↦ ?_) (fun cause ↦ ?_) fun name ↦ ?_
  · have hparamSpan : param.span = param'.span := congrArg (·.span) h
    simp only [trimmedComparison, hownerName, hfile, hmethodName, hparamSpan]
  · simp only [trimmedComparison, hownerName, hfile, hmethodName, hspan]
  · simp only [trimmedComparison, ScannedFunction.trim, howner, hmethod, hownerName, hmethodName,
      hreturn, ScannedFunction.mk.injEq, true_and]
    generalize index.lookup? method'.returnType = declaration at hdeclaration ⊢
    generalize index'.lookup? method'.returnType = declaration' at hdeclaration ⊢
    cases hdeclaration with
    | none => rfl
    | some hdeclaration => exact congrArg some hdeclaration

/-- Functions that are the same, idle attributes apart, add the same to a report. -/
theorem contributionOf_eq_of_trim_eq {program program' : Program} {options : GeneratorOptions}
    (hassembly : program'.assembly = program.assembly)
    (hattributes : program'.attributeTypes = program.attributeTypes)
    {function function' : ScannedFunction}
    (h : function.trim ((Catalog.forProgram program).isActive options.conventions) =
      function'.trim ((Catalog.forProgram program).isActive options.conventions)) :
    program.contributionOf options function = program'.contributionOf options function' := by
  rw [Program.contributionOf, Program.contributionOf, hassembly,
    Catalog.forProgram_congr hattributes, ← function.contribution_trim, h,
    function'.contribution_trim]

/-- The candidates among methods, with a type as their owner. -/
def candidatesOf (conventions : Conventions) (owner : DeclaredType) (methods : List Method) :
    List (DeclaredType × Method) :=
  (methods.filter (·.isCandidate conventions)).map fun method ↦ (owner, method)

/-- The candidates of a program are those of its types, in order. -/
theorem Program.candidates_eq_flatMap (program : Program) (conventions : Conventions) :
    program.candidates conventions =
      program.types.flatMap fun type ↦ candidatesOf conventions type type.methods := by
  simp only [candidates, methods, List.filter_flatMap, List.filter_map]
  rfl

/-- True of candidates that are the same up to some attributes and to what else their owners
declare. -/
def SameCandidate (keep : Attribute → Bool) (candidate other : DeclaredType × Method) : Prop :=
  candidate.1.trim keep = other.1.trim keep ∧ candidate.2.trim keep = other.2.trim keep

/-- True of types that are the same up to some attributes and to their methods. -/
def SameDeclaration (keep : Attribute → Bool) (type other : DeclaredType) : Prop :=
  type.trim keep = other.trim keep

section

variable {keep : Attribute → Bool}

theorem forall₂_sameCandidate_refl (candidates : List (DeclaredType × Method)) :
    List.Forall₂ (SameCandidate keep) candidates candidates :=
  List.forall₂_same.2 fun _ _ ↦ ⟨rfl, rfl⟩

theorem forall₂_sameDeclaration_refl (types : List DeclaredType) :
    List.Forall₂ (SameDeclaration keep) types types :=
  List.forall₂_same.2 fun _ _ ↦ rfl

/-- Types that are the same up to their methods have the same names. -/
theorem SameDeclaration.names_eq {type other : DeclaredType} (h : SameDeclaration keep type other) :
    type.name = other.name ∧ type.namespaceName = other.namespaceName :=
  ⟨congrArg (·.name) h, congrArg (·.namespaceName) h⟩

/-- Methods keep being the same candidates if their owner changes up to its methods. -/
theorem forall₂_candidatesOf {type other : DeclaredType} (h : SameDeclaration keep type other)
    (conventions : Conventions) (methods : List Method) :
    List.Forall₂ (SameCandidate keep) (candidatesOf conventions type methods)
      (candidatesOf conventions other methods) := by
  unfold candidatesOf
  rw [List.forall₂_map_left_iff, List.forall₂_map_right_iff, List.forall₂_same]
  exact fun _ _ ↦ ⟨h, rfl⟩

end

/-- Programs with the same declarations have scans that are alike, candidate by candidate. -/
theorem outcomes_of_sameCandidates {program program' : Program} {conventions : Conventions}
    {catalog : Catalog} (hassembly : program'.assembly = program.assembly)
    (htypes : List.Forall₂ (SameDeclaration (catalog.isActive conventions)) program.types
      program'.types)
    {candidates candidates' : List (DeclaredType × Method)}
    (hcandidates : List.Forall₂ (SameCandidate (catalog.isActive conventions)) candidates
      candidates') :
    List.Forall₂ (trimmedComparison (catalog.isActive conventions)).Outcomes
      (scanOutcomesFrom program.assembly conventions (.ofTypes program.types) ∅ candidates)
      (scanOutcomesFrom program'.assembly conventions (.ofTypes program'.types) ∅ candidates') := by
  refine ScanComparison.forall₂_scanOutcomesFrom (hcandidates.imp fun candidate other hsame ↦ ?_) ∅
  rw [hassembly]
  refine outcomes_resolveCandidate hsame.1 hsame.2 fun type ↦ ?_
  exact TypeIndex.rel_lookup? (fun _ _ ↦ SameDeclaration.names_eq) htypes type

/-- A program with some of the candidates of another one, and the same declarations, has the report
on the outcomes of these candidates. -/
theorem generate_of_sameCandidates {program program' : Program} {options : GeneratorOptions}
    (hassembly : program'.assembly = program.assembly)
    (hattributes : program'.attributeTypes = program.attributeTypes)
    (htypes : List.Forall₂
      (SameDeclaration ((Catalog.forProgram program).isActive options.conventions)) program.types
      program'.types)
    {candidates : List (DeclaredType × Method)}
    (hcandidates : List.Forall₂
      (SameCandidate ((Catalog.forProgram program).isActive options.conventions)) candidates
      (program'.candidates options.conventions)) :
    program'.generate options =
      .ofScanOutcomes (program.contributionOf options)
        (scanOutcomesFrom program.assembly options.conventions (.ofTypes program.types) ∅
          candidates) := by
  have halike := outcomes_of_sameCandidates hassembly htypes hcandidates
  rw [program'.generate_eq_ofScanOutcomes]
  exact (ofScanOutcomes_eq (trimmedComparison _) halike (fun _ _ herror ↦ herror)
    fun _ _ hfunction ↦ contributionOf_eq_of_trim_eq hassembly hattributes hfunction).symm

end FunctionBindings
