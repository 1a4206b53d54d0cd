import FunctionBindings.Scan.Candidates

/-!
# Outcomes of a scan

Every candidate has one outcome, in its place. A scan that finds no error turns each candidate into
the function of its owner and its method, in traversal order (`map_candidate_of_scan_eq_ok`).
-/

namespace FunctionBindings

/-- A candidate that becomes a function becomes one with its own owner and method. -/
theorem candidate_of_resolveCandidate {assembly : String} {conventions : Conventions}
    {index : TypeIndex} {owner : DeclaredType} {method : Method} {function : ScannedFunction}
    (h : resolveCandidate assembly conventions index owner method = .ok function) :
    (function.owner, function.method) = (owner, method) := by
  unfold resolveCandidate at h
  split at h
  · cases h
  split at h
  · cases h
  split at h
  · cases h
  · cases h
    rfl

/-- The check for duplicates does not change a function. -/
theorem eq_of_refuseDuplicate {taken : Table String String} {function result : ScannedFunction}
    (h : refuseDuplicate taken function = .ok result) : result = function := by
  unfold refuseDuplicate at h
  split at h
  · cases h
  · cases h
    rfl

@[simp] theorem functionsOf_nil : functionsOf [] = [] := rfl

@[simp] theorem functionsOf_ok (function : ScannedFunction)
    (outcomes : List (Except ScanError ScannedFunction)) :
    functionsOf (.ok function :: outcomes) = function :: functionsOf outcomes := rfl

@[simp] theorem functionsOf_error (error : ScanError)
    (outcomes : List (Except ScanError ScannedFunction)) :
    functionsOf (.error error :: outcomes) = functionsOf outcomes := rfl

@[simp] theorem scanErrorsOf_nil : scanErrorsOf [] = [] := rfl

@[simp] theorem scanErrorsOf_ok (function : ScannedFunction)
    (outcomes : List (Except ScanError ScannedFunction)) :
    scanErrorsOf (.ok function :: outcomes) = scanErrorsOf outcomes := rfl

@[simp] theorem scanErrorsOf_error (error : ScanError)
    (outcomes : List (Except ScanError ScannedFunction)) :
    scanErrorsOf (.error error :: outcomes) = error :: scanErrorsOf outcomes := rfl

/-- Where no candidate is an error, the functions are those of the candidates in order. -/
theorem map_candidate_functionsOf {assembly : String} {conventions : Conventions}
    {index : TypeIndex} {taken : Table String String} {candidates : List (DeclaredType × Method)}
    (h : scanErrorsOf (scanOutcomesFrom assembly conventions index taken candidates) = []) :
    (functionsOf (scanOutcomesFrom assembly conventions index taken candidates)).map
      (fun function ↦ (function.owner, function.method)) = candidates := by
  induction candidates generalizing taken with
  | nil => rfl
  | cons candidate rest ih =>
      obtain ⟨owner, method⟩ := candidate
      rw [scanOutcomesFrom] at h ⊢
      cases hresolved : resolveCandidate assembly conventions index owner method with
      | error error => simp [hresolved] at h
      | ok function =>
          -- The names taken so far change from candidate to candidate, but never the candidates.
          cases hnew : refuseDuplicate taken function with
          | error error => simp [hresolved, hnew] at h
          | ok result =>
              obtain rfl := eq_of_refuseDuplicate hnew
              simp only [hresolved, hnew, scanErrorsOf_ok] at h
              simp only [hnew, functionsOf_ok, List.map_cons]
              rw [candidate_of_resolveCandidate hresolved, ih h]

namespace Program

variable {program : Program} {conventions : Conventions}

/-- A scan fails with the errors among the outcomes, of which there is at least one. -/
theorem scan_eq_error_iff {errors : List ScanError} :
    program.scan conventions = .error errors ↔
      errors ≠ [] ∧ errors = scanErrorsOf (program.scanOutcomes conventions) := by
  cases hfound : scanErrorsOf (program.scanOutcomes conventions) with
  | nil => simp [scan, hfound]
  | cons error rest =>
      simp only [scan, hfound, Except.error.injEq]
      constructor
      · rintro rfl
        exact ⟨by simp, rfl⟩
      · rintro ⟨-, rfl⟩
        rfl

/-- A scan succeeds with the functions among the outcomes if none is an error. -/
theorem scan_eq_ok_iff {functions : List ScannedFunction} :
    program.scan conventions = .ok functions ↔
      scanErrorsOf (program.scanOutcomes conventions) = [] ∧
        functions = functionsOf (program.scanOutcomes conventions) := by
  cases hfound : scanErrorsOf (program.scanOutcomes conventions) with
  | nil => simp [scan, hfound, eq_comm]
  | cons error rest => simp [scan, hfound]

/-- The functions of a successful scan are those of all candidates, in traversal order. -/
theorem map_candidate_of_scan_eq_ok {functions : List ScannedFunction}
    (h : program.scan conventions = .ok functions) :
    functions.map (fun function ↦ (function.owner, function.method)) =
      program.candidates conventions := by
  obtain ⟨hnone, rfl⟩ := scan_eq_ok_iff.1 h
  exact map_candidate_functionsOf hnone

end Program

end FunctionBindings
