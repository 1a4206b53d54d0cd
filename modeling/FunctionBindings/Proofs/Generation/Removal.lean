import FunctionBindings.Proofs.Generation.SameCandidates

/-!
# Removing a function

Functions share the names that are taken, the index of types and the catalog, and yet each is
generated on its own: a program that scans without errors and loses one of its candidates has the
report that it had, less what the function of that candidate adds. This holds also if the candidate
is declared in a type that other functions return, because a lookup gives such a type without it.
Main statement: `generate_without_candidate`.
-/

namespace FunctionBindings

/-- A successful scan that leaves out one candidate finds the functions of all others, and no other
function has the name of the one that is left out. -/
theorem exists_split_of_scan_eq_ok {program : Program} {conventions : Conventions}
    {functions : List ScannedFunction} (hscan : program.scan conventions = .ok functions)
    {first last : List (DeclaredType × Method)} {candidate : DeclaredType × Method}
    (hcandidates : program.candidates conventions = first ++ candidate :: last) :
    ∃ earlier function later, functions = earlier ++ function :: later ∧
      (function.owner, function.method) = candidate ∧
      (∀ other ∈ earlier ++ later, other.name ≠ function.name) ∧
      scanOutcomesFrom program.assembly conventions (.ofTypes program.types) ∅ (first ++ last) =
        (earlier ++ later).map .ok := by
  obtain ⟨hresolved, hnodup⟩ := Program.scan_eq_ok_iff_map.1 hscan
  -- The functions are split where the candidates are.
  rw [hcandidates, List.map_append, List.map_cons, eq_comm, List.map_eq_append_iff] at hresolved
  obtain ⟨earlier, others, rfl, hearlier, hothers⟩ := hresolved
  obtain ⟨function, later, rfl, hfunction, hlater⟩ := List.map_eq_cons_iff.1 hothers
  have hmiddle : (earlier ++ function :: later).Perm (function :: (earlier ++ later)) :=
    List.perm_middle
  obtain ⟨hnew, hrest⟩ := List.nodup_cons.1 ((hmiddle.map (·.name)).nodup_iff.1 hnodup)
  refine ⟨earlier, function, later, rfl, candidate_of_resolveCandidate hfunction.symm, ?_, ?_⟩
  · exact fun other hother hname ↦ hnew (List.mem_map.2 ⟨other, hother, hname⟩)
  · refine scanOutcomesFrom_eq_map_ok_iff.2 ⟨?_, hrest, fun _ _ ↦ rfl⟩
    rw [List.map_append, List.map_append, hearlier, hlater]

/-- A program that scans without errors loses one of its candidates, a method of one of its types.
It still scans, and its report is the one that it had without what the function of this candidate
adds: the records, errors and warnings of the functions before and behind it stay as they were. -/
theorem generate_without_candidate {program : Program} {options : GeneratorOptions}
    {functions : List ScannedFunction} {before after : List DeclaredType} {type : DeclaredType}
    {front back : List Method} {method : Method}
    (hscan : program.scan options.conventions = .ok functions)
    (htypes : program.types = before ++ type :: after)
    (hmethods : type.methods = front ++ method :: back)
    (hcandidate : method.isCandidate options.conventions) :
    let remaining : Program :=
      { program with types := before ++ { type with methods := front ++ back } :: after }
    let added := program.contributionOf options
    ∃ earlier function later,
      functions = earlier ++ function :: later ∧
      function.owner = type ∧ function.method = method ∧
      (∀ other ∈ earlier ++ later, other.name ≠ function.name) ∧
      program.generate options = .ofContributions ((earlier ++ function :: later).map added) ∧
      remaining.generate options = .ofContributions ((earlier ++ later).map added) := by
  intro remaining added
  have hcandidates : program.candidates options.conventions =
      (before.flatMap (fun type ↦ candidatesOf options.conventions type type.methods) ++
          candidatesOf options.conventions type front) ++ (type, method) ::
        (candidatesOf options.conventions type back ++
          after.flatMap (fun type ↦ candidatesOf options.conventions type type.methods)) := by
    simp [program.candidates_eq_flatMap, htypes, candidatesOf, hmethods, hcandidate]
  have hremaining : remaining.candidates options.conventions =
      (before.flatMap (fun type ↦ candidatesOf options.conventions type type.methods) ++
          candidatesOf options.conventions { type with methods := front ++ back } front) ++
        (candidatesOf options.conventions { type with methods := front ++ back } back ++
          after.flatMap (fun type ↦ candidatesOf options.conventions type type.methods)) := by
    simp [remaining, Program.candidates_eq_flatMap, candidatesOf]
  obtain ⟨earlier, function, later, rfl, hfunction, hnew, hkept⟩ :=
    exists_split_of_scan_eq_ok hscan hcandidates
  obtain ⟨howner, hmethod⟩ := Prod.mk.inj hfunction
  refine ⟨earlier, function, later, rfl, howner, hmethod, hnew,
    Program.generate_eq_ofContributions hscan, ?_⟩
  -- Only the owner of the removed candidate changes, and only in its methods.
  have hsame : SameDeclaration ((Catalog.forProgram program).isActive options.conventions) type
      { type with methods := front ++ back } := rfl
  have hassembly : remaining.assembly = program.assembly := rfl
  have hattributes : remaining.attributeTypes = program.attributeTypes := rfl
  rw [← GenerationReport.ofScanOutcomes_map_ok, ← hkept]
  refine generate_of_sameCandidates hassembly hattributes ?_ ?_
  · rw [htypes]
    exact List.rel_append (forall₂_sameDeclaration_refl before)
      (.cons hsame (forall₂_sameDeclaration_refl after))
  · rw [hremaining]
    refine List.rel_append (List.rel_append (forall₂_sameCandidate_refl _) ?_)
      (List.rel_append ?_ (forall₂_sameCandidate_refl _))
    · exact forall₂_candidatesOf hsame _ front
    · exact forall₂_candidatesOf hsame _ back

namespace OrderSteps

/-- A function of a name that returns a type. -/
def method (name : String) (returnType : TypeRef) : Method :=
  (Method.of name returnType).annotated ((Attribute.named "Function").withArgument (.string name))

/-- The type that one function returns and that declares the other one. -/
def step : DeclaredType :=
  ((DeclaredType.of "Step").withMember
    ((Member.of "queued" (.named "System.String" [])).annotated
      ((Attribute.named "QueueOutput").withArgument (.string "orders")))).withMethod
    (method "Finish" .void)

/-- The type of the function that returns a step. -/
def start : DeclaredType :=
  (DeclaredType.of "Orders").withMethod (method "Start" (.named "Step" []))

/-- A program whose functions are `Finish` and `Start`. -/
def program : Program := ((Program.of "Shop").withType step).withType start

/-- The functions of the program. -/
def functions : List ScannedFunction :=
  [⟨"Finish", "Shop.Step.Finish", step, method "Finish" .void, none⟩,
    ⟨"Start", "Shop.Orders.Start", start, method "Start" (.named "Step" []), some step⟩]

/-- Without `Finish`, only what `Start` adds is left. -/
theorem generate_without_finish :
    program.scan .standard = .ok functions ∧
      ∃ earlier function later,
        functions = earlier ++ function :: later ∧
        function.owner = step ∧ function.method = method "Finish" .void ∧
        { program with types := [{ step with methods := [] }, start] }.generate .standard =
          .ofContributions ((earlier ++ later).map (program.contributionOf .standard)) := by
  have hscan : program.scan GeneratorOptions.standard.conventions = .ok functions := rfl
  have htypes : program.types = [] ++ step :: [start] := rfl
  have hmethods : step.methods = [] ++ method "Finish" .void :: [] := rfl
  obtain ⟨earlier, function, later, hfunctions, howner, hmethod, -, -, hremaining⟩ :=
    generate_without_candidate hscan htypes hmethods rfl
  exact ⟨hscan, earlier, function, later, hfunctions, howner, hmethod, hremaining⟩

end OrderSteps

end FunctionBindings
