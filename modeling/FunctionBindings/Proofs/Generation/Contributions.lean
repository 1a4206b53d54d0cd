import FunctionBindings.Generation.Report
import FunctionBindings.Proofs.Binding.RuleReport
import FunctionBindings.Proofs.Scan.Outcomes
import Mathlib.Data.List.Basic

/-!
# What each function adds to a report

A report is the concatenation of what its functions add to it, in scan order
(`ScannedFunction.contribution`): a record if no rule blocks the function, otherwise the errors that
do, and its warnings in either case. Nothing is lost, repeated or put in another list on the way.
Main statement: `generate_contributions`, which also says what a failed scan reports and when a
report counts as a success. How the functions are distributed over processors has no part in it.
-/

namespace FunctionBindings

/-- What one function adds to the three lists of a report. -/
structure Contribution where
  records : List FunctionRecord
  errors : List CheckError
  warnings : List CheckError

namespace ScannedFunction

variable (function : ScannedFunction) (catalog : Catalog) (conventions : Conventions)
  (assembly : String)

/-- What the rules report about a function. -/
def reported : List CheckError :=
  function.validate (function.classify catalog conventions)

/-- The record of a function with all the bindings that its classification finds. -/
def fullRecord : FunctionRecord where
  functionId := functionId function.name function.entryPoint
  language := conventions.language
  name := function.name
  entryPoint := function.entryPoint
  rawBindings := (function.classify catalog conventions).bindings.map (·.descriptor.text)
  scriptFile := conventions.scriptFileFor assembly

/-- A function adds its record if nothing that is reported blocks it, and what blocks it otherwise;
what does not block it is added to the warnings. -/
def contribution : Contribution where
  records :=
    if (function.reported catalog conventions).any (·.isHard) then []
    else [function.fullRecord catalog conventions assembly]
  errors := (function.reported catalog conventions).filter (·.isHard)
  warnings := (function.reported catalog conventions).filter (!·.isHard)

end ScannedFunction

/-- What an outcome adds to a report. -/
def FunctionOutcome.contribution (outcome : FunctionOutcome) : Contribution :=
  match outcome.result with
  | .ok record => ⟨[record], [], outcome.warnings⟩
  | .error errors => ⟨[], errors, outcome.warnings⟩

/-- The outcome of a function adds what the function adds. -/
theorem contribution_outcome (function : ScannedFunction) (catalog : Catalog)
    (conventions : Conventions) (assembly : String) :
    (function.outcome catalog conventions assembly).contribution =
      function.contribution catalog conventions assembly := by
  by_cases hrules : (function.classify catalog conventions).KeepsRules
  -- All that is reported of an accepted function are warnings.
  · have hsoft : ∀ error ∈ function.reported catalog conventions, ¬ error.isHard := by
      intro error herror
      rw [ScannedFunction.reported, function.validate_of_keepsRules _ hrules] at herror
      exact function.not_isHard_of_mem_checkLegacy _ herror
    have herrors : (function.reported catalog conventions).filter (·.isHard) = [] :=
      List.filter_eq_nil_iff.2 hsoft
    have hwarnings : (function.reported catalog conventions).filter (!·.isHard) =
        function.reported catalog conventions := by
      rw [List.filter_eq_self]
      intro error herror
      simp [hsoft error herror]
    have hpasses : (function.reported catalog conventions).any (·.isHard) = false := by
      rw [List.any_eq_false]
      exact hsoft
    simp only [ScannedFunction.contribution, herrors, hwarnings, hpasses,
      ScannedFunction.outcome, checkFunction_of_keepsRules hrules, FunctionOutcome.contribution]
    rw [ScannedFunction.reported, function.validate_of_keepsRules _ hrules]
    rfl
  -- The report of a refused function is split into what blocks it and its warnings.
  · have hblocked : (function.reported catalog conventions).any (·.isHard) :=
      (function.any_isHard_validate_iff _).2 hrules
    simp only [ScannedFunction.contribution, hblocked, ScannedFunction.outcome,
      checkFunction_of_not_keepsRules hrules, List.partition_eq_filter_filter,
      FunctionOutcome.contribution]
    rfl

/-- Joining an outcome appends what it adds to each list. -/
theorem GenerationReport.join_eq (report : GenerationReport) (outcome : FunctionOutcome) :
    report.join outcome =
      ⟨report.records ++ outcome.contribution.records,
        report.errors ++ outcome.contribution.errors.map .check,
        report.warnings ++ outcome.contribution.warnings⟩ := by
  unfold join FunctionOutcome.contribution
  cases outcome.result <;> simp

/-- Joining outcomes appends what they add, in order. -/
theorem GenerationReport.foldl_join (outcomes : List FunctionOutcome) (report : GenerationReport) :
    outcomes.foldl join report =
      ⟨report.records ++ outcomes.flatMap (·.contribution.records),
        report.errors ++ outcomes.flatMap (·.contribution.errors.map .check),
        report.warnings ++ outcomes.flatMap (·.contribution.warnings)⟩ := by
  induction outcomes generalizing report with
  | nil => simp
  | cons outcome outcomes ih =>
      rw [List.foldl_cons, join_eq, ih]
      simp

namespace Program

variable (program : Program) (options : GeneratorOptions)

/-- What a function of a program adds to the report of the program. -/
def contributionOf (function : ScannedFunction) : Contribution :=
  function.contribution (.forProgram program) options.conventions program.assembly

/-- The report on the functions of a successful scan is what they add, in scan order. -/
theorem generate_of_scan_eq_ok {functions : List ScannedFunction}
    (h : program.scan options.conventions = .ok functions) :
    program.generate options =
      ⟨functions.flatMap fun f ↦ (program.contributionOf options f).records,
        functions.flatMap fun f ↦ (program.contributionOf options f).errors.map .check,
        functions.flatMap fun f ↦ (program.contributionOf options f).warnings⟩ := by
  simp only [generate, h, mapParallel_eq_map, GenerationReport.ofOutcomes,
    GenerationReport.foldl_join, List.flatMap_map, contribution_outcome, GenerationReport.empty,
    List.nil_append]
  rfl

/-- The report on a failed scan has the errors of the scan and nothing else. -/
theorem generate_of_scan_eq_error {errors : List ScanError}
    (h : program.scan options.conventions = .error errors) :
    program.generate options = ⟨[], errors.map .scan, []⟩ := by
  simp only [generate, h, GenerationReport.ofScanErrors]

/-- A function adds its record or the errors that block it, and never both or neither. -/
theorem contributionOf_cases (function : ScannedFunction) :
    ((program.contributionOf options function).records =
        [function.fullRecord (.forProgram program) options.conventions program.assembly] ∧
      (program.contributionOf options function).errors = []) ∨
    ((program.contributionOf options function).records = [] ∧
      (program.contributionOf options function).errors ≠ []) := by
  simp only [contributionOf, ScannedFunction.contribution]
  cases hblocked : (function.reported (.forProgram program) options.conventions).any (·.isHard) with
  | false =>
      refine .inl ⟨rfl, List.filter_eq_nil_iff.2 ?_⟩
      exact List.any_eq_false.1 hblocked
  | true =>
      refine .inr ⟨rfl, fun hnone ↦ ?_⟩
      obtain ⟨error, herror, hhard⟩ := List.any_eq_true.1 hblocked
      exact List.filter_eq_nil_iff.1 hnone error herror hhard

/-- All errors of a report are errors to the user. -/
theorem severity_of_mem_errors {error : GenerationError}
    (h : error ∈ (program.generate options).errors) : error.diagnostic.severity = .error := by
  cases hscan : program.scan options.conventions with
  | error errors =>
      rw [program.generate_of_scan_eq_error options hscan] at h
      obtain ⟨scanError, -, rfl⟩ := List.mem_map.1 h
      rfl
  | ok functions =>
      rw [program.generate_of_scan_eq_ok options hscan] at h
      obtain ⟨function, -, hadded⟩ := List.mem_flatMap.1 h
      obtain ⟨checkError, hfiltered, rfl⟩ := List.mem_map.1 hadded
      have hhard : checkError.isHard := (List.mem_filter.1 hfiltered).2
      simp [GenerationError.diagnostic, CheckError.diagnostic, hhard]

/-- All warnings of a report are warnings to the user. -/
theorem severity_of_mem_warnings {warning : CheckError}
    (h : warning ∈ (program.generate options).warnings) :
    warning.diagnostic.severity = .warning := by
  cases hscan : program.scan options.conventions with
  | error errors =>
      rw [program.generate_of_scan_eq_error options hscan] at h
      cases h
  | ok functions =>
      rw [program.generate_of_scan_eq_ok options hscan] at h
      obtain ⟨function, -, hadded⟩ := List.mem_flatMap.1 h
      have hsoft : warning.isHard = false := by simpa using (List.mem_filter.1 hadded).2
      simp [CheckError.diagnostic, hsoft]

/-- A report counts as a success if the scan found no error and every function adds its record. -/
theorem result_generate_eq_ok_iff :
    (∃ records, (program.generate options).result = .ok records) ↔
      ∃ functions, program.scan options.conventions = .ok functions ∧
        ∀ function ∈ functions, (program.contributionOf options function).records ≠ [] := by
  have hresult : (∃ records, (program.generate options).result = .ok records) ↔
      (program.generate options).errors = [] := by
    unfold GenerationReport.result GenerationReport.isSuccess
    cases (program.generate options).errors <;> simp
  rw [hresult]
  cases hscan : program.scan options.conventions with
  | error errors =>
      rw [program.generate_of_scan_eq_error options hscan]
      simp [(Program.scan_eq_error_iff.1 hscan).1]
  | ok functions =>
      rw [program.generate_of_scan_eq_ok options hscan]
      simp only [List.flatMap_eq_nil_iff, List.map_eq_nil_iff, Except.ok.injEq, exists_eq_left']
      refine forall_congr' fun function ↦ forall_congr' fun _ ↦ ?_
      obtain ⟨hrecord, herrors⟩ | ⟨hrecord, herrors⟩ :=
        program.contributionOf_cases options function
      · simp [hrecord, herrors]
      · simp [hrecord, herrors]

/-- The records of a success are those of all functions of the scan, in scan order. -/
theorem exists_functions_of_result_eq_ok {records : List FunctionRecord}
    (h : (program.generate options).result = .ok records) :
    ∃ functions, program.scan options.conventions = .ok functions ∧
      records = functions.map fun function ↦
        function.fullRecord (.forProgram program) options.conventions program.assembly := by
  obtain ⟨functions, hscan, hadded⟩ := (program.result_generate_eq_ok_iff options).1 ⟨records, h⟩
  have hrecords : records = (program.generate options).records := by
    unfold GenerationReport.result at h
    split at h
    · exact (Except.ok.inj h).symm
    · cases h
  refine ⟨functions, hscan, ?_⟩
  rw [hrecords, program.generate_of_scan_eq_ok options hscan, List.map_eq_flatMap]
  refine List.flatMap_congr fun function hfunction ↦ ?_
  obtain ⟨hrecord, -⟩ | ⟨hnone, -⟩ := program.contributionOf_cases options function
  · exact hrecord
  · exact absurd hnone (hadded function hfunction)

/-- A function adds a record only if its bindings keep all rules. -/
theorem keepsRules_of_mem_contributionOf {function : ScannedFunction} {record : FunctionRecord}
    (h : record ∈ (program.contributionOf options function).records) :
    (function.classify (.forProgram program) options.conventions).KeepsRules ∧
      record = function.fullRecord (.forProgram program) options.conventions program.assembly := by
  simp only [contributionOf, ScannedFunction.contribution] at h
  split at h
  · cases h
  · rename_i hpasses
    rw [ScannedFunction.reported, function.any_isHard_validate_iff, not_not] at hpasses
    exact ⟨hpasses, List.mem_singleton.1 h⟩

/-- The records of a report are full records of functions of the program whose bindings keep all
rules. -/
theorem exists_keepsRules_of_mem_records {record : FunctionRecord}
    (h : record ∈ (program.generate options).records) :
    ∃ function ∈ functionsOf (program.scanOutcomes options.conventions),
      (function.classify (.forProgram program) options.conventions).KeepsRules ∧
      record = function.fullRecord (.forProgram program) options.conventions program.assembly := by
  cases hscan : program.scan options.conventions with
  | error errors =>
      rw [program.generate_of_scan_eq_error options hscan] at h
      cases h
  | ok functions =>
      obtain ⟨-, hfunctions⟩ := Program.scan_eq_ok_iff.1 hscan
      rw [program.generate_of_scan_eq_ok options hscan] at h
      obtain ⟨function, hfunction, hadded⟩ := List.mem_flatMap.1 h
      exact ⟨function, hfunctions ▸ hfunction,
        program.keepsRules_of_mem_contributionOf options hadded⟩

/-- The records of a report are full records of functions of the program. -/
theorem exists_function_of_mem_records {record : FunctionRecord}
    (h : record ∈ (program.generate options).records) :
    ∃ function ∈ functionsOf (program.scanOutcomes options.conventions),
      record = function.fullRecord (.forProgram program) options.conventions program.assembly := by
  obtain ⟨function, hfunction, -, hrecord⟩ := program.exists_keepsRules_of_mem_records options h
  exact ⟨function, hfunction, hrecord⟩

/-- What a report says about functions is what the rules report about functions of the program. -/
theorem exists_function_of_reported {error : CheckError}
    (h : .check error ∈ (program.generate options).errors ∨
      error ∈ (program.generate options).warnings) :
    ∃ function ∈ functionsOf (program.scanOutcomes options.conventions),
      error ∈ function.reported (.forProgram program) options.conventions := by
  cases hscan : program.scan options.conventions with
  | error errors =>
      rw [program.generate_of_scan_eq_error options hscan] at h
      obtain h | h := h
      · obtain ⟨scanError, -, hother⟩ := List.mem_map.1 h
        cases hother
      · cases h
  | ok functions =>
      obtain ⟨-, hfunctions⟩ := Program.scan_eq_ok_iff.1 hscan
      rw [program.generate_of_scan_eq_ok options hscan] at h
      obtain h | h := h
      · obtain ⟨function, hfunction, hadded⟩ := List.mem_flatMap.1 h
        obtain ⟨checkError, hreported, hsame⟩ := List.mem_map.1 hadded
        cases hsame
        exact ⟨function, hfunctions ▸ hfunction, (List.mem_filter.1 hreported).1⟩
      · obtain ⟨function, hfunction, hreported⟩ := List.mem_flatMap.1 h
        exact ⟨function, hfunctions ▸ hfunction, (List.mem_filter.1 hreported).1⟩

end Program

/-- A report holds the errors of the scan and nothing else if the scan fails. Otherwise it holds, in
scan order and for every candidate once, the record of the function or the errors that block it, and
its warnings. Errors are errors to the user and warnings are warnings, and the report is a success
exactly if the scan succeeds and every function has a record. -/
theorem generate_contributions (program : Program) (options : GeneratorOptions) :
    let report := program.generate options
    let added := program.contributionOf options
    (match program.scan options.conventions with
      | .error errors =>
          errors ≠ [] ∧ report.errors = errors.map .scan ∧ report.records = [] ∧
            report.warnings = []
      | .ok functions =>
          functions.map (fun function ↦ (function.owner, function.method)) =
            program.candidates options.conventions ∧
          report.records = functions.flatMap (fun function ↦ (added function).records) ∧
          report.errors = functions.flatMap (fun function ↦ (added function).errors.map .check) ∧
          report.warnings = functions.flatMap (fun function ↦ (added function).warnings)) ∧
    (∀ function : ScannedFunction,
      ((added function).records =
          [function.fullRecord (.forProgram program) options.conventions program.assembly] ∧
        (added function).errors = []) ∨
      ((added function).records = [] ∧ (added function).errors ≠ [])) ∧
    (∀ error ∈ report.errors, error.diagnostic.severity = .error) ∧
    (∀ warning ∈ report.warnings, warning.diagnostic.severity = .warning) ∧
    ((∃ records, report.result = .ok records) ↔
      ∃ functions, program.scan options.conventions = .ok functions ∧
        ∀ function ∈ functions, (added function).records ≠ []) := by
  intro report added
  refine ⟨?_, program.contributionOf_cases options,
    fun _ ↦ program.severity_of_mem_errors options,
    fun _ ↦ program.severity_of_mem_warnings options, program.result_generate_eq_ok_iff options⟩
  cases hscan : program.scan options.conventions with
  | error errors =>
      have hreport : report = _ := program.generate_of_scan_eq_error options hscan
      rw [hreport]
      exact ⟨(Program.scan_eq_error_iff.1 hscan).1, rfl, rfl, rfl⟩
  | ok functions =>
      have hreport : report = _ := program.generate_of_scan_eq_ok options hscan
      rw [hreport]
      exact ⟨Program.map_candidate_of_scan_eq_ok hscan, rfl, rfl, rfl⟩

end FunctionBindings
