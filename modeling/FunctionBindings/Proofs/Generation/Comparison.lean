import FunctionBindings.Proofs.Generation.Contributions
import FunctionBindings.Proofs.Scan.Comparison

/-!
# Reports side by side

Two reports are compared by what is seen of their errors and warnings, which may be all of them or,
say, their codes (`GenerationReport.Alike`). The report on a program is made of the outcomes of its
scan and of what each function adds (`Program.generate_eq_ofScanOutcomes`), so it is enough to
compare these: `alike_ofScanOutcomes`, and `ofScanOutcomes_eq` where nothing may differ.
-/

namespace FunctionBindings

variable {α : Type}

/-- Reports are alike if they have the same records, and errors and warnings that look the same. -/
structure GenerationReport.Alike (look : GenerationError → α) (report other : GenerationReport) :
    Prop where
  records : report.records = other.records
  errors : report.errors.map look = other.errors.map look
  warnings : report.warnings.map (look ∘ .check) = other.warnings.map (look ∘ .check)

/-- What functions add is alike if it is the same record, or errors that look the same, and warnings
that look the same. -/
structure Contribution.Alike (look : GenerationError → α) (added other : Contribution) : Prop where
  records : added.records = other.records
  errors : added.errors.map (look ∘ .check) = other.errors.map (look ∘ .check)
  warnings : added.warnings.map (look ∘ .check) = other.warnings.map (look ∘ .check)

/-- Nothing is left to see of reports that are alike in full. -/
theorem GenerationReport.Alike.eq {report other : GenerationReport} (h : report.Alike id other) :
    report = other := by
  obtain ⟨records, errors, warnings⟩ := report
  obtain ⟨hrecords, herrors, hwarnings⟩ := h
  have hcheck : Function.Injective GenerationError.check := fun _ _ ↦ GenerationError.check.inj
  rw [List.map_id, List.map_id] at herrors
  rw [Function.id_comp] at hwarnings
  rw [GenerationReport.mk.injEq]
  exact ⟨hrecords, herrors, hcheck.list_map hwarnings⟩

/-- What is the same is alike. -/
theorem Contribution.Alike.refl (look : GenerationError → α) (added : Contribution) :
    added.Alike look added := ⟨rfl, rfl, rfl⟩

/-- The report that joins what functions add, in order. -/
def GenerationReport.ofContributions (added : List Contribution) : GenerationReport where
  records := added.flatMap (·.records)
  errors := added.flatMap (·.errors.map .check)
  warnings := added.flatMap (·.warnings)

/-- The report on a successful scan joins what its functions add. -/
theorem Program.generate_eq_ofContributions {program : Program} {options : GeneratorOptions}
    {functions : List ScannedFunction} (h : program.scan options.conventions = .ok functions) :
    program.generate options =
      .ofContributions (functions.map (program.contributionOf options)) := by
  rw [program.generate_of_scan_eq_ok options h]
  simp only [GenerationReport.ofContributions, List.flatMap_map]

/-- What is alike, piece by piece, adds up to reports that are alike. -/
theorem alike_ofContributions {look : GenerationError → α} {added others : List Contribution}
    (h : List.Forall₂ (·.Alike look ·) added others) :
    (GenerationReport.ofContributions added).Alike look (.ofContributions others) where
  records := flatMap_eq_of_forall₂ h fun _ _ hpiece ↦ hpiece.records
  errors := by
    simp only [GenerationReport.ofContributions, List.map_flatMap, List.map_map]
    exact flatMap_eq_of_forall₂ h fun _ _ hpiece ↦ hpiece.errors
  warnings := by
    simp only [GenerationReport.ofContributions, List.map_flatMap]
    exact flatMap_eq_of_forall₂ h fun _ _ hpiece ↦ hpiece.warnings

/-- The report on the outcomes of a scan: its errors if there are any, and otherwise what its
functions add. -/
def GenerationReport.ofScanOutcomes (added : ScannedFunction → Contribution)
    (outcomes : List (Except ScanError ScannedFunction)) : GenerationReport :=
  match scanErrorsOf outcomes with
  | [] => .ofContributions ((functionsOf outcomes).map added)
  | error :: errors => ⟨[], (error :: errors).map .scan, []⟩

/-- The report on a program is that on the outcomes of its scan. -/
theorem Program.generate_eq_ofScanOutcomes (program : Program) (options : GeneratorOptions) :
    program.generate options =
      .ofScanOutcomes (program.contributionOf options)
        (program.scanOutcomes options.conventions) := by
  unfold GenerationReport.ofScanOutcomes
  cases herrors : scanErrorsOf (program.scanOutcomes options.conventions) with
  | nil => exact generate_eq_ofContributions (scan_eq_ok_iff.2 ⟨herrors, rfl⟩)
  | cons error errors =>
      refine program.generate_of_scan_eq_error options ?_
      simp only [scan, herrors]

/-- The report on functions is what they add. -/
theorem GenerationReport.ofScanOutcomes_map_ok (added : ScannedFunction → Contribution)
    (functions : List ScannedFunction) :
    ofScanOutcomes added (functions.map .ok) = .ofContributions (functions.map added) := by
  obtain ⟨herrors, hfunctions⟩ := eq_map_ok_iff.1 (Eq.refl (functions.map Except.ok))
  rw [ofScanOutcomes, herrors, ← hfunctions]

/-- Outcomes that are alike have reports that are alike if scan errors that are alike look the same
and functions that are alike add alike. -/
theorem alike_ofScanOutcomes {look : GenerationError → α} (comparison : ScanComparison)
    {added added' : ScannedFunction → Contribution}
    {outcomes outcomes' : List (Except ScanError ScannedFunction)}
    (h : List.Forall₂ comparison.Outcomes outcomes outcomes')
    (herrors : ∀ error other, comparison.errors error other →
      look (.scan error) = look (.scan other))
    (hadded : ∀ function other, comparison.functions function other →
      (added function).Alike look (added' other)) :
    (GenerationReport.ofScanOutcomes added outcomes).Alike look
      (.ofScanOutcomes added' outcomes') := by
  have hfailed := ScanComparison.forall₂_scanErrorsOf h
  have hfound := ScanComparison.forall₂_functionsOf h
  unfold GenerationReport.ofScanOutcomes
  generalize scanErrorsOf outcomes = errors at hfailed ⊢
  generalize scanErrorsOf outcomes' = errors' at hfailed ⊢
  cases hfailed with
  | nil =>
      refine alike_ofContributions ?_
      rw [List.forall₂_map_left_iff, List.forall₂_map_right_iff]
      exact hfound.imp hadded
  | cons hfirst hrest =>
      refine ⟨rfl, ?_, rfl⟩
      rw [List.map_map, List.map_map]
      exact map_eq_of_forall₂ (.cons hfirst hrest) herrors

/-- Outcomes that are alike have the same report if scan errors that are alike are the same and
functions that are alike add the same. -/
theorem ofScanOutcomes_eq (comparison : ScanComparison)
    {added added' : ScannedFunction → Contribution}
    {outcomes outcomes' : List (Except ScanError ScannedFunction)}
    (h : List.Forall₂ comparison.Outcomes outcomes outcomes')
    (herrors : ∀ error other, comparison.errors error other → error = other)
    (hadded : ∀ function other, comparison.functions function other →
      added function = added' other) :
    GenerationReport.ofScanOutcomes added outcomes = .ofScanOutcomes added' outcomes' := by
  have halike : (GenerationReport.ofScanOutcomes added outcomes).Alike id
      (.ofScanOutcomes added' outcomes') := by
    refine alike_ofScanOutcomes comparison h (fun error other hsame ↦ ?_)
      fun function other hsame ↦ ?_
    · rw [herrors error other hsame]
    · rw [hadded function other hsame]
      exact .refl id _
  exact halike.eq

end FunctionBindings
