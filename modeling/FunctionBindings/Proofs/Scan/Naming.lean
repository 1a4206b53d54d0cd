import FunctionBindings.Proofs.Scan.Outcomes
import FunctionBindings.Proofs.Scan.ResolvedTypes
import Mathlib.Data.List.Nodup

/-!
# Names of scanned functions

The rules by which a candidate becomes a function or an error, given the functions before it
(`ScanOutcome`): only functions take names, so a candidate that fails for another reason leaves its
name to later ones, and a name that is taken is always that of just one earlier function. The scan
looks names up in a table instead, which holds those of the functions so far (`Remembers`). Main
statement: `scan_candidates`.
-/

namespace FunctionBindings

/-- True of a name that the first entry-point attribute of a method gives: its first argument, a
string that is not blank. -/
def Method.IsNamed (method : Method) (conventions : Conventions) (name : String) : Prop :=
  ∃ earlier attr later arguments,
    method.attributes = earlier ++ attr :: later ∧
    (∀ other ∈ earlier, ¬ conventions.isEntryPoint other.name) ∧
    conventions.isEntryPoint attr.name ∧
    attr.arguments = .string name :: arguments ∧ ¬ Text.isBlank name

/-- A constant has the text of a string if it is that string. -/
theorem Constant.string?_eq_some_iff {constant : Constant} {text : String} :
    constant.string? = some text ↔ constant = .string text := by
  unfold string? string
  split
  · simp
  · rename_i hother
    exact iff_of_false nofun fun h ↦ hother text h

namespace Method

variable {method : Method} {conventions : Conventions}

/-- The scan takes the name that the first entry-point attribute gives. -/
theorem functionName?_eq_some_iff {name : String} :
    method.functionName? conventions = some name ↔ method.IsNamed conventions name := by
  simp only [functionName?, IsNamed, bind, Option.bind_eq_some_iff, List.find?_eq_some_iff_append,
    List.head?_eq_some_iff]
  constructor
  · rintro ⟨attr, ⟨hentry, earlier, later, hsplit, hearlier⟩, constant, ⟨arguments, hargs⟩, text,
      htext, hname⟩
    split at hname
    · cases hname
    · rename_i hblank
      obtain rfl := Option.some.inj hname
      obtain rfl := Constant.string?_eq_some_iff.1 htext
      refine ⟨earlier, attr, later, arguments, hsplit, ?_, hentry, hargs, hblank⟩
      intro other hother
      simpa using hearlier other hother
  · rintro ⟨earlier, attr, later, arguments, hsplit, hearlier, hentry, hargs, hblank⟩
    refine ⟨attr, ⟨hentry, earlier, later, hsplit, ?_⟩, _, ⟨arguments, hargs⟩, name, rfl, ?_⟩
    · intro other hother
      simpa using hearlier other hother
    · rw [if_neg hblank]

/-- A method has no more than one name. -/
theorem IsNamed.unique {first second : String} (hfirst : method.IsNamed conventions first)
    (hsecond : method.IsNamed conventions second) : first = second := by
  rw [← functionName?_eq_some_iff] at hfirst hsecond
  exact Option.some.inj (hfirst.symm.trans hsecond)

/-- The scan finds no name if there is none. -/
theorem functionName?_eq_none_iff :
    method.functionName? conventions = none ↔ ∀ name, ¬ method.IsNamed conventions name := by
  simp only [← functionName?_eq_some_iff, ← ne_eq, Option.eq_none_iff_forall_ne_some]

end Method

section

variable (assembly : String) (conventions : Conventions) (index : TypeIndex)

/-- What a candidate becomes after some functions. The checks of its name, of its parameters in
order and of its return type come first; only a candidate that passes them asks for its name. -/
inductive ScanOutcome (earlier : List ScannedFunction) (owner : DeclaredType) (method : Method) :
    Except ScanError ScannedFunction → Prop where
  | unnamed (hname : ∀ name, ¬ method.IsNamed conventions name) :
      ScanOutcome earlier owner method
        (.error ⟨owner.name, method.name, ⟨owner.file, method.span⟩, .missingFunctionName⟩)
  | unresolvedParameter {name text : String} {before after : List Parameter} {param : Parameter}
      (hname : method.IsNamed conventions name) (hsplit : method.params = before ++ param :: after)
      (hbefore : ∀ other ∈ before, other.type.IsResolved)
      (hin : TypeRef.Occurs (.unresolved text) param.type) :
      ScanOutcome earlier owner method
        (.error ⟨owner.name, method.name, ⟨owner.file, param.span⟩,
          .unresolvedType (.parameter param.name) text⟩)
  | unresolvedReturnType {name text : String} (hname : method.IsNamed conventions name)
      (hparams : ∀ param ∈ method.params, param.type.IsResolved)
      (hin : TypeRef.Occurs (.unresolved text) method.returnType) :
      ScanOutcome earlier owner method
        (.error ⟨owner.name, method.name, ⟨owner.file, method.span⟩,
          .unresolvedType .returnType text⟩)
  | duplicate {name : String} {first : ScannedFunction} (hname : method.IsNamed conventions name)
      (htypes : method.HasResolvedTypes) (hfirst : first ∈ earlier) (hsame : first.name = name) :
      ScanOutcome earlier owner method
        (.error ⟨owner.name, method.name, ⟨owner.file, method.span⟩,
          .duplicateFunctionName name first.entryPoint⟩)
  | function {name : String} (hname : method.IsNamed conventions name)
      (htypes : method.HasResolvedTypes) (hnew : ∀ other ∈ earlier, other.name ≠ name) :
      ScanOutcome earlier owner method
        (.ok ⟨name, assembly ++ "." ++ owner.name ++ "." ++ method.name, owner, method,
          index.lookup? method.returnType⟩)

/-- True of a table that maps the names of functions to their entry points. -/
def Remembers (taken : Table String String) (functions : List ScannedFunction) : Prop :=
  ∀ name, taken.get? name = (functions.find? (·.name = name)).map (·.entryPoint)

/-- The outcome of a candidate while some names are taken. -/
def outcomeWith (taken : Table String String) (candidate : DeclaredType × Method) :
    Except ScanError ScannedFunction :=
  match resolveCandidate assembly conventions index candidate.1 candidate.2 with
  | .error error => .error error
  | .ok function => refuseDuplicate taken function

/-- The names that are taken after an outcome: an error takes none. -/
def takenAfter (taken : Table String String) :
    Except ScanError ScannedFunction → Table String String
  | .error _ => taken
  | .ok function => taken.insert function.name function.entryPoint

/-- One step of the scan. -/
theorem scanOutcomesFrom_cons (taken : Table String String) (candidate : DeclaredType × Method)
    (rest : List (DeclaredType × Method)) :
    scanOutcomesFrom assembly conventions index taken (candidate :: rest) =
      outcomeWith assembly conventions index taken candidate ::
        scanOutcomesFrom assembly conventions index
          (takenAfter taken (outcomeWith assembly conventions index taken candidate)) rest := by
  obtain ⟨owner, method⟩ := candidate
  rw [scanOutcomesFrom, outcomeWith]
  cases resolveCandidate assembly conventions index owner method with
  | error error => rfl
  | ok function =>
      dsimp only
      cases refuseDuplicate taken function <;> rfl

variable {assembly conventions index}

/-- A step of the scan goes by the rules. -/
theorem scanOutcome_outcomeWith {taken : Table String String} {earlier : List ScannedFunction}
    (htaken : Remembers taken earlier) (candidate : DeclaredType × Method) :
    ScanOutcome assembly conventions index earlier candidate.1 candidate.2
      (outcomeWith assembly conventions index taken candidate) := by
  obtain ⟨owner, method⟩ := candidate
  simp only [outcomeWith, resolveCandidate]
  cases hname : method.functionName? conventions with
  | none => exact .unnamed (Method.functionName?_eq_none_iff.1 hname)
  | some name =>
      rw [Method.functionName?_eq_some_iff] at hname
      cases hparam : method.unresolvedParameter? with
      | some found =>
          obtain ⟨before, param, after, hsplit, hfound, hbefore⟩ :=
            List.findSome?_eq_some_iff.1 hparam
          obtain ⟨type, htype, rfl⟩ := Option.map_eq_some_iff.1 hfound
          obtain ⟨text, rfl, hin⟩ := TypeRef.occurs_of_firstUnresolved? _ htype
          refine .unresolvedParameter hname hsplit (fun other hother ↦ ?_) hin
          have hnone := Option.map_eq_none_iff.1 (hbefore other hother)
          exact (TypeRef.firstUnresolved?_eq_none_iff _).1 hnone
      | none =>
          cases hreturn : method.returnType.firstUnresolved? with
          | some type =>
              obtain ⟨text, rfl, hin⟩ := TypeRef.occurs_of_firstUnresolved? _ hreturn
              have hparams := Method.unresolvedParameter?_eq_none_iff.1 hparam
              exact .unresolvedReturnType hname hparams hin
          | none =>
              have htypes := Method.hasResolvedTypes_iff.2 ⟨hparam, hreturn⟩
              simp only [refuseDuplicate, htaken name]
              cases hfirst : earlier.find? (·.name = name) with
              | none =>
                  refine .function hname htypes fun other hother ↦ ?_
                  simpa using List.find?_eq_none.1 hfirst other hother
              | some first =>
                  have hsame : first.name = name := by simpa using List.find?_some hfirst
                  exact .duplicate hname htypes (List.mem_of_find?_eq_some hfirst) hsame

/-- A step of the scan remembers the name of a function. -/
theorem remembers_takenAfter {taken : Table String String} {earlier : List ScannedFunction}
    {owner : DeclaredType} {method : Method} {outcome : Except ScanError ScannedFunction}
    (htaken : Remembers taken earlier)
    (h : ScanOutcome assembly conventions index earlier owner method outcome) :
    Remembers (takenAfter taken outcome) (earlier ++ functionsOf [outcome]) := by
  cases h with
  | unnamed | unresolvedParameter | unresolvedReturnType | duplicate =>
      simpa [takenAfter] using htaken
  | @function name hname htypes hnew =>
      intro other
      simp only [takenAfter, Table.get?_insert, htaken other, functionsOf_ok, functionsOf_nil,
        List.find?_append]
      by_cases hother : name = other
      · subst hother
        have hnone : earlier.find? (·.name = name) = none := by
          simpa [List.find?_eq_none] using hnew
        simp [hnone]
      · simp [hother]

variable (assembly conventions index) in
/-- A scan goes from candidate to candidate by the rules; the functions so far grow on the way. -/
inductive ScanRun : List ScannedFunction → List (DeclaredType × Method) →
    List (Except ScanError ScannedFunction) → Prop where
  | nil {earlier : List ScannedFunction} : ScanRun earlier [] []
  | cons {earlier : List ScannedFunction} {candidate : DeclaredType × Method}
      {rest : List (DeclaredType × Method)} {outcome : Except ScanError ScannedFunction}
      {outcomes : List (Except ScanError ScannedFunction)}
      (hstep : ScanOutcome assembly conventions index earlier candidate.1 candidate.2 outcome)
      (hrest : ScanRun (earlier ++ functionsOf [outcome]) rest outcomes) :
      ScanRun earlier (candidate :: rest) (outcome :: outcomes)

/-- The scan goes by the rules. -/
theorem scanRun_scanOutcomesFrom {taken : Table String String} {earlier : List ScannedFunction}
    (htaken : Remembers taken earlier) (candidates : List (DeclaredType × Method)) :
    ScanRun assembly conventions index earlier candidates
      (scanOutcomesFrom assembly conventions index taken candidates) := by
  induction candidates generalizing taken earlier with
  | nil => exact .nil
  | cons candidate rest ih =>
      have hstep : ScanOutcome assembly conventions index earlier candidate.1 candidate.2
          (outcomeWith assembly conventions index taken candidate) :=
        scanOutcome_outcomeWith htaken candidate
      rw [scanOutcomesFrom_cons]
      exact .cons hstep (ih (remembers_takenAfter htaken hstep))

namespace ScanRun

variable {earlier : List ScannedFunction} {candidates : List (DeclaredType × Method)}
  {outcomes : List (Except ScanError ScannedFunction)}

/-- Every candidate has one outcome. -/
theorem length_eq (h : ScanRun assembly conventions index earlier candidates outcomes) :
    outcomes.length = candidates.length := by
  induction h with
  | nil => rfl
  | cons hstep hrest ih => rw [List.length_cons, ih, List.length_cons]

/-- Every outcome goes by the rules for the candidate in its place and the functions before it. -/
theorem scanOutcome (h : ScanRun assembly conventions index earlier candidates outcomes) {i : Nat}
    {candidate : DeclaredType × Method} {outcome : Except ScanError ScannedFunction}
    (hcandidate : candidates[i]? = some candidate) (houtcome : outcomes[i]? = some outcome) :
    ScanOutcome assembly conventions index (earlier ++ functionsOf (outcomes.take i)) candidate.1
      candidate.2 outcome := by
  induction h generalizing i with
  | nil => simp at hcandidate
  | @cons earlier first rest firstOutcome outcomes hstep hrest ih =>
      cases i with
      | zero =>
          obtain rfl := Option.some.inj hcandidate
          obtain rfl := Option.some.inj houtcome
          simpa using hstep
      | succ i =>
          have hsplit : functionsOf ((firstOutcome :: outcomes).take (i + 1)) =
              functionsOf [firstOutcome] ++ functionsOf (outcomes.take i) := by
            cases firstOutcome <;> rfl
          rw [hsplit, ← List.append_assoc]
          exact ih hcandidate houtcome

/-- Every function is what a candidate becomes. -/
theorem exists_scanOutcome (h : ScanRun assembly conventions index earlier candidates outcomes)
    {function : ScannedFunction} (hmem : function ∈ functionsOf outcomes) :
    ∃ before, ∃ candidate ∈ candidates,
      ScanOutcome assembly conventions index before candidate.1 candidate.2 (.ok function) := by
  induction h with
  | nil => cases hmem
  | @cons earlier candidate rest outcome outcomes hstep hrest ih =>
      cases outcome with
      | error error =>
          obtain ⟨before, other, hother, hfunction⟩ := ih hmem
          exact ⟨before, other, List.mem_cons_of_mem candidate hother, hfunction⟩
      | ok found =>
          rcases List.mem_cons.1 hmem with rfl | hlater
          · exact ⟨earlier, candidate, List.mem_cons_self, hstep⟩
          · obtain ⟨before, other, hother, hfunction⟩ := ih hlater
            exact ⟨before, other, List.mem_cons_of_mem candidate hother, hfunction⟩

/-- The functions stand in the order of their candidates. -/
theorem sublist_candidates (h : ScanRun assembly conventions index earlier candidates outcomes) :
    ((functionsOf outcomes).map fun function ↦ (function.owner, function.method)).Sublist
      candidates := by
  induction h with
  | nil => exact .slnil
  | @cons earlier candidate rest outcome outcomes hstep hrest ih =>
      cases hstep with
      | unnamed | unresolvedParameter | unresolvedReturnType | duplicate => exact ih.cons candidate
      | function => exact ih.cons_cons candidate

/-- No two functions have one name, nor does one have the name of an earlier function. -/
theorem nodup_names (h : ScanRun assembly conventions index earlier candidates outcomes) :
    ((functionsOf outcomes).map (·.name)).Nodup ∧
      ∀ function ∈ functionsOf outcomes, ∀ other ∈ earlier, other.name ≠ function.name := by
  induction h with
  | nil => exact ⟨List.nodup_nil, nofun⟩
  | cons hstep hrest ih =>
      obtain ⟨hnodup, hfresh⟩ := ih
      cases hstep with
      | unnamed | unresolvedParameter | unresolvedReturnType | duplicate =>
          simpa using And.intro hnodup hfresh
      | @function name hname htypes hnew =>
          simp only [functionsOf_ok, functionsOf_nil, List.mem_append, List.mem_singleton,
            List.map_cons, List.nodup_cons, List.forall_mem_cons] at hfresh ⊢
          refine ⟨⟨?_, hnodup⟩, hnew, ?_⟩
          · intro hmem
            obtain ⟨function, hfunction, hsame⟩ := List.mem_map.1 hmem
            exact hfresh function hfunction _ (.inr rfl) hsame.symm
          · intro function hfunction other hother
            exact hfresh function hfunction other (.inl hother)

/-- No outcome is an error if all candidates have names and resolved types and no name is given
twice, be it to two candidates or to a candidate and an earlier function. -/
theorem scanErrorsOf_eq_nil_iff
    (h : ScanRun assembly conventions index earlier candidates outcomes) :
    scanErrorsOf outcomes = [] ↔
      (∀ candidate ∈ candidates,
        (∃ name, candidate.2.IsNamed conventions name) ∧ candidate.2.HasResolvedTypes) ∧
      candidates.Pairwise (fun first second ↦
        ∀ name, first.2.IsNamed conventions name → ¬ second.2.IsNamed conventions name) ∧
      ∀ candidate ∈ candidates, ∀ function ∈ earlier,
        ¬ candidate.2.IsNamed conventions function.name := by
  induction h with
  | nil => simp
  | @cons earlier candidate rest outcome outcomes hstep hrest ih =>
      cases hstep with
      | unnamed hname =>
          refine iff_of_false nofun fun h ↦ ?_
          obtain ⟨name, hnamed⟩ := (h.1 candidate List.mem_cons_self).1
          exact hname name hnamed
      | @unresolvedParameter name text before after param hname hsplit hbefore hin =>
          refine iff_of_false nofun fun h ↦ ?_
          have hmem : param ∈ candidate.2.params := by simp [hsplit]
          exact (h.1 candidate List.mem_cons_self).2.1 param hmem text hin
      | unresolvedReturnType hname hparams hin =>
          exact iff_of_false nofun fun h ↦ (h.1 candidate List.mem_cons_self).2.2 _ hin
      | duplicate hname htypes hfirst hsame =>
          refine iff_of_false nofun fun h ↦ ?_
          exact h.2.2 candidate List.mem_cons_self _ hfirst (hsame ▸ hname)
      | @function name hname htypes hnew =>
          have hnamed {other : String} : candidate.2.IsNamed conventions other ↔ other = name :=
            ⟨(Method.IsNamed.unique · hname), (· ▸ hname)⟩
          simp only [scanErrorsOf_ok, ih, functionsOf_ok, functionsOf_nil, List.mem_append,
            List.mem_singleton, List.forall_mem_cons, List.pairwise_cons, hnamed]
          -- That the rest does not give the new name is among the conditions on both sides: as one
          -- on earlier functions on the left, as one on pairs of candidates on the right.
          constructor
          · rintro ⟨hrest, hpairs, hfresh⟩
            refine ⟨⟨⟨⟨name, rfl⟩, htypes⟩, hrest⟩, ⟨?_, hpairs⟩, hnew, ?_⟩
            · rintro other hother _ rfl
              exact hfresh other hother _ (.inr rfl)
            · intro other hother function hfunction
              exact hfresh other hother function (.inl hfunction)
          · rintro ⟨⟨-, hrest⟩, ⟨hfirst, hpairs⟩, -, hfresh⟩
            refine ⟨hrest, hpairs, ?_⟩
            rintro other hother function (hfunction | rfl)
            · exact hfresh other hother function hfunction
            · exact hfirst other hother _ rfl

/-- An error about a name that is taken is about that of the one function that has it, which is
earlier. -/
theorem exists_of_duplicateFunctionName
    (h : ScanRun assembly conventions index [] candidates outcomes) {i : Nat} {error : ScanError}
    (hi : outcomes[i]? = some (.error error)) {name first : String}
    (hcause : error.cause = .duplicateFunctionName name first) :
    ∃ function ∈ functionsOf (outcomes.take i), function.name = name ∧
      function.entryPoint = first ∧
      ∀ other ∈ functionsOf outcomes, other.name = name → other = function := by
  obtain ⟨hlt, -⟩ := List.getElem?_eq_some_iff.1 hi
  have hstep := h.scanOutcome (List.getElem?_eq_getElem (h.length_eq ▸ hlt)) hi
  cases hstep with
  | unnamed | unresolvedParameter | unresolvedReturnType => cases hcause
  | @duplicate name function hname htypes hfirst hsame =>
      cases hcause
      refine ⟨function, hfirst, hsame, rfl, fun other hother hname ↦ ?_⟩
      have hmem : function ∈ functionsOf outcomes :=
        ((List.take_sublist i outcomes).filterMap _).subset hfirst
      exact List.inj_on_of_nodup_map h.nodup_names.1 hother hmem (hname.trans hsame.symm)

end ScanRun

end

/-- The table of no names remembers no functions. -/
theorem remembers_nil : Remembers ∅ [] := fun _ ↦ rfl

/-- The scan of a program goes by the rules. -/
theorem Program.scanRun_scanOutcomes (program : Program) (conventions : Conventions) :
    ScanRun program.assembly conventions (.ofTypes program.types) []
      (program.candidates conventions) (program.scanOutcomes conventions) :=
  scanRun_scanOutcomesFrom remembers_nil _

/-- True of a function with the name, the entry point and the return declaration that a program
gives to one of its candidates. -/
structure ScannedFunction.IsFrom (function : ScannedFunction) (program : Program)
    (conventions : Conventions) : Prop where
  candidate : (function.owner, function.method) ∈ program.candidates conventions
  named : function.method.IsNamed conventions function.name
  resolved : function.method.HasResolvedTypes
  entryPoint : function.entryPoint =
    program.assembly ++ "." ++ function.owner.name ++ "." ++ function.method.name
  returnDeclaration : function.returnDeclaration =
    (TypeIndex.ofTypes program.types).lookup? function.method.returnType

/-- The functions that a scan finds are those of the program. -/
theorem isFrom_of_mem_functionsOf {program : Program} {conventions : Conventions}
    {function : ScannedFunction} (h : function ∈ functionsOf (program.scanOutcomes conventions)) :
    function.IsFrom program conventions := by
  obtain ⟨before, candidate, hcandidate, hfunction⟩ :=
    (program.scanRun_scanOutcomes conventions).exists_scanOutcome h
  cases hfunction with
  | function hname htypes hnew => exact ⟨hcandidate, hname, htypes, rfl, rfl⟩

/-- A scan succeeds if no outcome is an error. -/
theorem Program.exists_scan_eq_ok_iff {program : Program} {conventions : Conventions} :
    (∃ functions, program.scan conventions = .ok functions) ↔
      scanErrorsOf (program.scanOutcomes conventions) = [] := by
  simp only [scan_eq_ok_iff, exists_and_left, exists_eq, and_true]

/-- The candidates of a program are the methods of its types with an entry-point attribute, type by
type and in order. Each has one outcome, which goes by the rules; the functions stand in the order
of their candidates and have different names, and an error about a name that is taken says which
function has it. The scan succeeds, with all functions, if all candidates have different names and
resolved types, and otherwise it fails with all errors. -/
theorem scan_candidates (program : Program) (conventions : Conventions) :
    let methods := program.types.flatMap fun type ↦ type.methods.map fun method ↦ (type, method)
    let candidates := methods.filter fun entry ↦
      entry.2.attributes.any fun attr ↦ conventions.isEntryPoint attr.name
    let outcomes := program.scanOutcomes conventions
    let functions := functionsOf outcomes
    outcomes.length = candidates.length ∧
    (∀ i candidate outcome, candidates[i]? = some candidate → outcomes[i]? = some outcome →
      ScanOutcome program.assembly conventions (.ofTypes program.types)
        (functionsOf (outcomes.take i)) candidate.1 candidate.2 outcome) ∧
    (functions.map fun function ↦ (function.owner, function.method)).Sublist candidates ∧
    (functions.map (·.name)).Nodup ∧
    (∀ i error name first, outcomes[i]? = some (.error error) →
      error.cause = .duplicateFunctionName name first →
      ∃ function ∈ functionsOf (outcomes.take i), function.name = name ∧
        function.entryPoint = first ∧
        ∀ other ∈ functions, other.name = name → other = function) ∧
    (∀ found, program.scan conventions = .ok found → found = functions) ∧
    (∀ errors, program.scan conventions = .error errors → errors = scanErrorsOf outcomes) ∧
    ((∃ found, program.scan conventions = .ok found) ↔
      (∀ candidate ∈ candidates,
        (∃ name, candidate.2.IsNamed conventions name) ∧ candidate.2.HasResolvedTypes) ∧
      candidates.Pairwise fun first second ↦
        ∀ name, first.2.IsNamed conventions name → ¬ second.2.IsNamed conventions name) := by
  intro methods candidates outcomes functions
  have hrun :
      ScanRun program.assembly conventions (.ofTypes program.types) [] candidates outcomes :=
    program.scanRun_scanOutcomes conventions
  refine ⟨hrun.length_eq, fun i candidate outcome hcandidate houtcome ↦ ?_,
    hrun.sublist_candidates, hrun.nodup_names.1, ?_, ?_, ?_, ?_⟩
  · simpa using hrun.scanOutcome hcandidate houtcome
  · exact fun i error name first hi hcause ↦ hrun.exists_of_duplicateFunctionName hi hcause
  · exact fun found hfound ↦ (Program.scan_eq_ok_iff.1 hfound).2
  · exact fun errors herrors ↦ (Program.scan_eq_error_iff.1 herrors).2
  · rw [Program.exists_scan_eq_ok_iff, hrun.scanErrorsOf_eq_nil_iff]
    simp only [List.not_mem_nil, false_implies, implies_true, and_true]

end FunctionBindings
