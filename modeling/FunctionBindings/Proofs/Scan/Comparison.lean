import FunctionBindings.Proofs.Scan.Naming
import Mathlib.Data.List.Forall2

/-!
# Scans side by side

Two scans are compared candidate by candidate, by a relation between errors and one between
functions (`ScanComparison`). An index goes by the names of types, so types with the same names are
found in the same places (`rel_lookup?`). Candidates resolve alike if what is asked of them has the
same answers (`ScanComparison.outcomes_resolveCandidate_of`), and then their outcomes are alike,
whatever was scanned before them (`ScanComparison.forall₂_scanOutcomesFrom`). On its own, a scan
succeeds exactly if every candidate resolves and no name is given twice
(`Program.scan_eq_ok_iff_map`).
-/

namespace FunctionBindings

/-- Two results are related if both are errors that are related, or both are values that are. -/
inductive ExceptRel {ε ε' α β : Type} (errors : ε → ε' → Prop) (values : α → β → Prop) :
    Except ε α → Except ε' β → Prop where
  | error {e : ε} {e' : ε'} (h : errors e e') : ExceptRel errors values (.error e) (.error e')
  | ok {a : α} {b : β} (h : values a b) : ExceptRel errors values (.ok a) (.ok b)

section

variable {α β γ δ : Type} {R : α → β → Prop} {S : γ → δ → Prop} {xs : List α} {ys : List β}

/-- Related lists have related elements in the same places. -/
theorem rel_getElem? (h : List.Forall₂ R xs ys) (i : Nat) : Option.Rel R xs[i]? ys[i]? := by
  induction h generalizing i with
  | nil => exact .none
  | cons hfirst hrest ih =>
      cases i with
      | zero => exact .some hfirst
      | succ i => exact ih i

/-- A filter keeps related lists related if it keeps both or neither of related elements. -/
theorem forall₂_filter {p : α → Bool} {q : β → Bool} (h : List.Forall₂ R xs ys)
    (hsame : ∀ x y, R x y → p x = q y) : List.Forall₂ R (xs.filter p) (ys.filter q) :=
  List.rel_filter (fun x y hxy ↦ Bool.eq_iff_iff.1 (hsame x y hxy)) h

/-- What is found first in related lists is related. -/
theorem rel_findSome? {f : α → Option γ} {g : β → Option δ} (h : List.Forall₂ R xs ys)
    (hstep : ∀ x y, R x y → Option.Rel S (f x) (g y)) :
    Option.Rel S (xs.findSome? f) (ys.findSome? g) := by
  rw [← List.head?_filterMap, ← List.head?_filterMap, List.head?_eq_getElem?,
    List.head?_eq_getElem?]
  exact rel_getElem? (List.rel_filterMap (fun x y ↦ hstep x y) h) 0

/-- Related lists agree on whether a property holds somewhere. -/
theorem any_eq_of_forall₂ {p : α → Bool} {q : β → Bool} (h : List.Forall₂ R xs ys)
    (hsame : ∀ x y, R x y → p x = q y) : xs.any p = ys.any q := by
  induction h with
  | nil => rfl
  | cons hfirst hrest ih => rw [List.any_cons, List.any_cons, hsame _ _ hfirst, ih]

/-- A map gives the same list if related elements give the same. -/
theorem map_eq_of_forall₂ {f : α → γ} {g : β → γ} (h : List.Forall₂ R xs ys)
    (hsame : ∀ x y, R x y → f x = g y) : xs.map f = ys.map g := by
  induction h with
  | nil => rfl
  | cons hfirst hrest ih => rw [List.map_cons, List.map_cons, hsame _ _ hfirst, ih]

/-- Pieces add up to the same list if related elements give the same pieces. -/
theorem flatMap_eq_of_forall₂ {f : α → List γ} {g : β → List γ} (h : List.Forall₂ R xs ys)
    (hsame : ∀ x y, R x y → f x = g y) : xs.flatMap f = ys.flatMap g := by
  rw [List.flatMap, List.flatMap, map_eq_of_forall₂ h hsame]

end

namespace TypeIndex

/-- Entering types does not change the types of an index. -/
theorem types_foldl_enter (entries : List (DeclaredType × Nat)) (index : TypeIndex) :
    (entries.foldl enter index).types = index.types := by
  induction entries generalizing index with
  | nil => rfl
  | cons entry entries ih => rw [List.foldl_cons, ih, enter]

/-- The types of an index are those that it is made of. -/
theorem types_ofTypes (types : List DeclaredType) : (ofTypes types).types = types :=
  types_foldl_enter types.zipIdx _

/-- True of indices that have the same names in the same places. -/
def SamePlaces (index other : TypeIndex) : Prop :=
  index.byFullName = other.byFullName ∧ index.bySimpleName = other.bySimpleName

variable {R : DeclaredType → DeclaredType → Prop}

/-- Types with the same names are entered in the same places. -/
theorem samePlaces_foldl_enter
    (hnames : ∀ type other, R type other →
      type.name = other.name ∧ type.namespaceName = other.namespaceName)
    {types others : List DeclaredType} (h : List.Forall₂ R types others) (start : Nat)
    {index other : TypeIndex} (hplaces : index.SamePlaces other) :
    ((types.zipIdx start).foldl enter index).SamePlaces
      ((others.zipIdx start).foldl enter other) := by
  induction h generalizing start index other with
  | nil => exact hplaces
  | @cons first second types others hfirst hrest ih =>
      obtain ⟨hname, hnamespace⟩ := hnames first second hfirst
      have hfull : first.fullName = second.fullName := by
        simp only [DeclaredType.fullName, hname, hnamespace]
      obtain ⟨hbyFull, hbySimple⟩ := hplaces
      refine ih (start + 1) ⟨?_, ?_⟩
      · simp only [enter, hfull, hbyFull]
      · simp only [enter, hname, hbySimple]

/-- In the same places, a reference points to the same position. -/
theorem SamePlaces.position?_eq {index other : TypeIndex} (h : index.SamePlaces other)
    (type : TypeRef) : index.position? type = other.position? type := by
  cases type with
  | named path generics => simp only [position?, h.1, h.2]
  | void | array | unresolved => rfl

/-- Among types with the same names, a reference points to types in the same place. -/
theorem rel_lookup?
    (hnames : ∀ type other, R type other →
      type.name = other.name ∧ type.namespaceName = other.namespaceName)
    {types others : List DeclaredType} (h : List.Forall₂ R types others) (type : TypeRef) :
    Option.Rel R ((ofTypes types).lookup? type) ((ofTypes others).lookup? type) := by
  have hplaces : (ofTypes types).SamePlaces (ofTypes others) :=
    samePlaces_foldl_enter hnames h 0 ⟨rfl, rfl⟩
  rw [lookup?, lookup?, hplaces.position?_eq, types_ofTypes, types_ofTypes]
  cases (ofTypes others).position? type with
  | none => exact .none
  | some position => exact rel_getElem? h position

end TypeIndex

/-- Methods whose parameters are related, with unresolved types in the same of them, have an
unresolved parameter in the same place. -/
theorem Method.rel_unresolvedParameter? {R : Parameter → Parameter → Prop}
    (htype : ∀ param other, R param other →
      param.type.firstUnresolved? = other.type.firstUnresolved?)
    {method other : Method} (h : List.Forall₂ R method.params other.params) :
    Option.Rel (fun found found' ↦ R found.1 found'.1 ∧ found.2 = found'.2)
      method.unresolvedParameter? other.unresolvedParameter? := by
  refine rel_findSome? h fun param param' hparam ↦ ?_
  rw [htype param param' hparam]
  cases param'.type.firstUnresolved? with
  | none => exact .none
  | some type => exact .some ⟨hparam, rfl⟩

/-- Return types whose declarations are related have members that are, if related declarations have
such members. -/
theorem ScannedFunction.forall₂_returnMembers_of {R : DeclaredType → DeclaredType → Prop}
    {S : Member → Member → Prop}
    (hmembers : ∀ type other, R type other → List.Forall₂ S type.members other.members)
    {function other : ScannedFunction}
    (h : Option.Rel R function.returnDeclaration other.returnDeclaration) :
    List.Forall₂ S function.returnMembers other.returnMembers := by
  unfold returnMembers
  generalize function.returnDeclaration = declaration at h ⊢
  generalize other.returnDeclaration = declaration' at h ⊢
  cases h with
  | none => exact .nil
  | some htype => exact hmembers _ _ htype

/-- Programs whose types and methods are related, one by one, have candidates that are, if methods
that are related are candidates alike. -/
theorem Program.forall₂_candidates_of {R : DeclaredType → DeclaredType → Prop}
    {S : Method → Method → Prop} {conventions : Conventions}
    (hmethods : ∀ type other, R type other → List.Forall₂ S type.methods other.methods)
    (hcandidate : ∀ method other, S method other →
      method.isCandidate conventions = other.isCandidate conventions)
    {program other : Program} (h : List.Forall₂ R program.types other.types) :
    List.Forall₂ (fun candidate candidate' ↦
        R candidate.1 candidate'.1 ∧ S candidate.2 candidate'.2)
      (program.candidates conventions) (other.candidates conventions) := by
  refine forall₂_filter (List.rel_flatMap h fun type type' htype ↦ ?_)
    fun _ _ hsame ↦ hcandidate _ _ hsame.2
  rw [List.forall₂_map_left_iff, List.forall₂_map_right_iff]
  exact (hmethods type type' htype).imp fun _ _ hmethod ↦ ⟨htype, hmethod⟩

/-- The error about a function whose name an earlier one has. -/
def ScannedFunction.duplicateError (function : ScannedFunction) (first : String) : ScanError :=
  ⟨function.owner.name, function.method.name, function.location,
    .duplicateFunctionName function.name first⟩

/-- How two scans are compared: which errors are alike and which functions. Functions that are alike
have the same name and entry point, and are refused alike if their name is taken. -/
structure ScanComparison where
  errors : ScanError → ScanError → Prop
  functions : ScannedFunction → ScannedFunction → Prop
  name_eq : ∀ {function other}, functions function other → function.name = other.name
  entryPoint_eq : ∀ {function other}, functions function other →
    function.entryPoint = other.entryPoint
  duplicate : ∀ {function other}, functions function other → ∀ first,
    errors (function.duplicateError first) (other.duplicateError first)

namespace ScanComparison

variable (comparison : ScanComparison)

/-- Outcomes are alike if both are errors that are alike or both are functions that are. -/
abbrev Outcomes (outcome other : Except ScanError ScannedFunction) : Prop :=
  ExceptRel comparison.errors comparison.functions outcome other

variable {comparison} {assembly assembly' : String} {conventions conventions' : Conventions}
  {index index' : TypeIndex}

/-- Candidates resolve alike if they are given the same name and have unresolved types in the same
places, if errors there are alike whatever their cause, and if their functions are. -/
theorem outcomes_resolveCandidate_of {R : Parameter → Parameter → Prop}
    {owner owner' : DeclaredType} {method method' : Method}
    (hname : method.functionName? conventions = method'.functionName? conventions')
    (hparams : List.Forall₂ R method.params method'.params)
    (hparamName : ∀ param param', R param param' → param.name = param'.name)
    (hparamType : ∀ param param', R param param' →
      param.type.firstUnresolved? = param'.type.firstUnresolved?)
    (hreturn : method.returnType.firstUnresolved? = method'.returnType.firstUnresolved?)
    (hatParam : ∀ param param', R param param' → ∀ cause, comparison.errors
      ⟨owner.name, method.name, ⟨owner.file, param.span⟩, cause⟩
      ⟨owner'.name, method'.name, ⟨owner'.file, param'.span⟩, cause⟩)
    (hatMethod : ∀ cause, comparison.errors
      ⟨owner.name, method.name, ⟨owner.file, method.span⟩, cause⟩
      ⟨owner'.name, method'.name, ⟨owner'.file, method'.span⟩, cause⟩)
    (hfunction : ∀ name, comparison.functions
      ⟨name, assembly ++ "." ++ owner.name ++ "." ++ method.name, owner, method,
        index.lookup? method.returnType⟩
      ⟨name, assembly' ++ "." ++ owner'.name ++ "." ++ method'.name, owner', method',
        index'.lookup? method'.returnType⟩) :
    comparison.Outcomes (resolveCandidate assembly conventions index owner method)
      (resolveCandidate assembly' conventions' index' owner' method') := by
  have hfound := Method.rel_unresolvedParameter? hparamType hparams
  rw [resolveCandidate, resolveCandidate, hname, hreturn]
  cases method'.functionName? conventions' with
  | none => exact .error (hatMethod _)
  | some name =>
      generalize method.unresolvedParameter? = found at hfound ⊢
      generalize method'.unresolvedParameter? = found' at hfound ⊢
      cases hfound with
      | @some found found' hsame =>
          obtain ⟨param, type⟩ := found
          obtain ⟨param', type'⟩ := found'
          obtain ⟨hparam, rfl : type = type'⟩ := hsame
          dsimp only
          rw [hparamName param param' hparam]
          exact .error (hatParam param param' hparam _)
      | none =>
          cases method'.returnType.firstUnresolved? with
          | some type => exact .error (hatMethod _)
          | none => exact .ok (hfunction name)

/-- While the same names are taken, candidates that resolve alike have outcomes that are alike. -/
theorem outcomes_outcomeWith {candidate candidate' : DeclaredType × Method}
    (h : comparison.Outcomes
      (resolveCandidate assembly conventions index candidate.1 candidate.2)
      (resolveCandidate assembly' conventions' index' candidate'.1 candidate'.2))
    (taken : Table String String) :
    comparison.Outcomes (outcomeWith assembly conventions index taken candidate)
      (outcomeWith assembly' conventions' index' taken candidate') := by
  unfold outcomeWith
  generalize resolveCandidate assembly conventions index candidate.1 candidate.2 = outcome at h ⊢
  generalize resolveCandidate assembly' conventions' index' candidate'.1 candidate'.2 = other
    at h ⊢
  cases h with
  | error h => exact .error h
  | @ok function function' h =>
      simp only [refuseDuplicate, comparison.name_eq h]
      cases taken.get? function'.name with
      | none => exact .ok h
      | some first =>
          refine .error ?_
          have hduplicate := comparison.duplicate h first
          rwa [ScannedFunction.duplicateError, comparison.name_eq h] at hduplicate

/-- Outcomes that are alike take the same name. -/
theorem takenAfter_eq {outcome other : Except ScanError ScannedFunction}
    (h : comparison.Outcomes outcome other) (taken : Table String String) :
    takenAfter taken outcome = takenAfter taken other := by
  cases h with
  | error h => rfl
  | ok h => rw [takenAfter, takenAfter, comparison.name_eq h, comparison.entryPoint_eq h]

/-- Candidates that resolve alike, one by one, have outcomes that are alike, one by one. -/
theorem forall₂_scanOutcomesFrom {candidates candidates' : List (DeclaredType × Method)}
    (h : List.Forall₂ (fun candidate candidate' ↦ comparison.Outcomes
      (resolveCandidate assembly conventions index candidate.1 candidate.2)
      (resolveCandidate assembly' conventions' index' candidate'.1 candidate'.2))
      candidates candidates') (taken : Table String String) :
    List.Forall₂ comparison.Outcomes
      (scanOutcomesFrom assembly conventions index taken candidates)
      (scanOutcomesFrom assembly' conventions' index' taken candidates') := by
  induction h generalizing taken with
  | nil => exact .nil
  | cons hfirst hrest ih =>
      have hstep := outcomes_outcomeWith hfirst taken
      rw [scanOutcomesFrom_cons, scanOutcomesFrom_cons, ← takenAfter_eq hstep]
      exact .cons hstep (ih _)

/-- Outcomes that are alike have functions that are alike. -/
theorem forall₂_functionsOf {outcomes others : List (Except ScanError ScannedFunction)}
    (h : List.Forall₂ comparison.Outcomes outcomes others) :
    List.Forall₂ comparison.functions (functionsOf outcomes) (functionsOf others) := by
  refine List.rel_filterMap ?_ h
  rintro _ _ (h | h)
  · exact .none
  · exact .some h

/-- Outcomes that are alike have errors that are alike. -/
theorem forall₂_scanErrorsOf {outcomes others : List (Except ScanError ScannedFunction)}
    (h : List.Forall₂ comparison.Outcomes outcomes others) :
    List.Forall₂ comparison.errors (scanErrorsOf outcomes) (scanErrorsOf others) := by
  refine List.rel_filterMap ?_ h
  rintro _ _ (h | h)
  · exact .some h
  · exact .none

end ScanComparison

section

variable {assembly : String} {conventions : Conventions} {index : TypeIndex}

/-- A candidate becomes a function if it resolves to it and its name is not taken. -/
theorem outcomeWith_eq_ok_iff {taken : Table String String} {candidate : DeclaredType × Method}
    {function : ScannedFunction} :
    outcomeWith assembly conventions index taken candidate = .ok function ↔
      resolveCandidate assembly conventions index candidate.1 candidate.2 = .ok function ∧
        taken.get? function.name = none := by
  unfold outcomeWith
  cases resolveCandidate assembly conventions index candidate.1 candidate.2 with
  | error error => simp
  | ok found =>
      dsimp only
      unfold refuseDuplicate
      cases htaken : taken.get? found.name with
      | none =>
          simp only [Except.ok.injEq]
          constructor
          · rintro rfl
            exact ⟨rfl, htaken⟩
          · exact And.left
      | some first =>
          simp only [reduceCtorEq, Except.ok.injEq, false_iff, not_and]
          rintro rfl
          simp [htaken]

/-- The outcomes of a scan are functions if all candidates resolve to them, and no name is given
twice or taken before. -/
theorem scanOutcomesFrom_eq_map_ok_iff {taken : Table String String}
    {candidates : List (DeclaredType × Method)} {functions : List ScannedFunction} :
    scanOutcomesFrom assembly conventions index taken candidates = functions.map .ok ↔
      candidates.map (fun candidate ↦
          resolveCandidate assembly conventions index candidate.1 candidate.2) =
        functions.map .ok ∧
      (functions.map (·.name)).Nodup ∧
      ∀ function ∈ functions, taken.get? function.name = none := by
  induction candidates generalizing taken functions with
  | nil => cases functions <;> simp [scanOutcomesFrom]
  | cons candidate rest ih =>
      cases functions with
      | nil => simp [scanOutcomesFrom_cons]
      | cons function functions =>
          rw [scanOutcomesFrom_cons]
          simp only [List.map_cons, List.cons.injEq, List.nodup_cons, List.forall_mem_cons]
          constructor
          · rintro ⟨hfirst, hrest⟩
            rw [hfirst, takenAfter, ih] at hrest
            obtain ⟨hresolved, hnodup, hfree⟩ := hrest
            obtain ⟨hfirst, htaken⟩ := outcomeWith_eq_ok_iff.1 hfirst
            simp only [Table.get?_insert] at hfree
            refine ⟨⟨hfirst, hresolved⟩, ⟨?_, hnodup⟩, htaken, fun later hlater ↦ ?_⟩
            · intro hmem
              obtain ⟨later, hlater, hname⟩ := List.mem_map.1 hmem
              simpa [hname] using hfree later hlater
            · have hlaterFree := hfree later hlater
              split at hlaterFree
              · cases hlaterFree
              · exact hlaterFree
          · rintro ⟨⟨hfirst, hresolved⟩, ⟨hnew, hnodup⟩, htaken, hfree⟩
            have hstep := outcomeWith_eq_ok_iff.2 ⟨hfirst, htaken⟩
            rw [hstep, takenAfter, ih]
            refine ⟨rfl, hresolved, hnodup, fun later hlater ↦ ?_⟩
            have hname : function.name ≠ later.name :=
              fun hname ↦ hnew (List.mem_map.2 ⟨later, hlater, hname.symm⟩)
            rw [Table.get?_insert, if_neg hname, hfree later hlater]

end

/-- Outcomes are functions if no error is among them. -/
theorem eq_map_ok_iff {outcomes : List (Except ScanError ScannedFunction)}
    {functions : List ScannedFunction} :
    outcomes = functions.map .ok ↔
      scanErrorsOf outcomes = [] ∧ functions = functionsOf outcomes := by
  induction outcomes generalizing functions with
  | nil => cases functions <;> simp
  | cons outcome outcomes ih =>
      cases outcome with
      | error error => cases functions <;> simp
      | ok found =>
          cases functions with
          | nil => simp
          | cons function functions =>
              simp only [List.map_cons, List.cons.injEq, Except.ok.injEq, ih, scanErrorsOf_ok,
                functionsOf_ok]
              constructor
              · rintro ⟨rfl, hnone, hrest⟩
                exact ⟨hnone, rfl, hrest⟩
              · rintro ⟨hnone, rfl, hrest⟩
                exact ⟨rfl, hnone, hrest⟩

/-- A scan succeeds if every candidate resolves on its own and no name is given twice. -/
theorem Program.scan_eq_ok_iff_map {program : Program} {conventions : Conventions}
    {functions : List ScannedFunction} :
    program.scan conventions = .ok functions ↔
      (program.candidates conventions).map (fun candidate ↦
          resolveCandidate program.assembly conventions (.ofTypes program.types) candidate.1
            candidate.2) =
        functions.map .ok ∧
      (functions.map (·.name)).Nodup := by
  rw [scan_eq_ok_iff, ← eq_map_ok_iff, scanOutcomes, scanOutcomesFrom_eq_map_ok_iff]
  refine and_congr_right fun _ ↦ and_iff_left ?_
  exact fun function _ ↦ rfl

end FunctionBindings
