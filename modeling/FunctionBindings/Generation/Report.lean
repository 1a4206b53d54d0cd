import FunctionBindings.Binding.Builtin
import FunctionBindings.Diagnostic
import FunctionBindings.Digest.Sha256
import FunctionBindings.Generation.Properties
import FunctionBindings.Scan.Candidates

/-!
# Generation

A generation scans a program and, if the scan succeeds, holds every function to the rules and makes
a record of each that keeps them. The report joins the outcomes of the functions in scan order.
-/

namespace FunctionBindings

/-- The bytes that identify a function: its name, a zero byte, and its entry point. -/
def functionIdBytes (name entryPoint : String) : List UInt8 :=
  name.toUTF8.toList ++ 0 :: entryPoint.toUTF8.toList

/-- The identifier of a function: the SHA-256 digest of its name and entry point. -/
def functionId (name entryPoint : String) : String :=
  Sha256.hex (functionIdBytes name entryPoint)

namespace Binding

/-- The descriptor of a binding. -/
def descriptor (binding : Binding) : Descriptor :=
  match binding.origin with
  | .httpResponse => .httpResponse binding.name
  | .declared attr spec =>
      { name := binding.name
        bindingType := spec.bindingType
        direction := binding.direction
        dataType := binding.dataType
        properties := attr.properties spec }

end Binding

/-- The record of a function that keeps the rules. -/
def CheckedFunction.record (checked : CheckedFunction) (conventions : Conventions)
    (assembly : String) : FunctionRecord where
  functionId := functionId checked.function.name checked.function.entryPoint
  language := conventions.language
  name := checked.function.name
  entryPoint := checked.function.entryPoint
  rawBindings := checked.bindings.map fun binding ↦ binding.descriptor.text
  scriptFile := conventions.scriptFileFor assembly

/-- What went wrong in a generation. -/
inductive GenerationError where
  | scan (error : ScanError)
  | check (error : CheckError)
  deriving DecidableEq, Repr, Inhabited

namespace GenerationError

/-- The code of an error. -/
def code : GenerationError → String
  | .scan error => error.code
  | .check error => error.code

/-- The wording of an error. -/
def message : GenerationError → String
  | .scan error => error.message
  | .check error => error.message

/-- The place of an error. -/
def location : GenerationError → Location
  | .scan error => error.location
  | .check error => error.location

/-- The diagnostic of an error. -/
def diagnostic : GenerationError → Diagnostic
  | .scan error => error.diagnostic
  | .check error => error.diagnostic

end GenerationError

/-- The outcome of one function: its record or the errors that block it, and its warnings. -/
structure FunctionOutcome where
  result : Except (List CheckError) FunctionRecord
  warnings : List CheckError

/-- What a generation found. -/
structure GenerationReport where
  /-- The records of the functions that keep the rules, in scan order. -/
  records : List FunctionRecord
  errors : List GenerationError
  warnings : List CheckError
  deriving Inhabited

namespace GenerationReport

/-- The report of nothing. -/
def empty : GenerationReport := ⟨[], [], []⟩

/-- Join the outcome of the next function. -/
def join (report : GenerationReport) (outcome : FunctionOutcome) : GenerationReport :=
  let warnings := report.warnings ++ outcome.warnings
  match outcome.result with
  | .ok record => { report with records := report.records ++ [record], warnings }
  | .error errors =>
      { report with errors := report.errors ++ errors.map .check, warnings }

/-- The report of outcomes in order. -/
def ofOutcomes (outcomes : List FunctionOutcome) : GenerationReport :=
  outcomes.foldl join empty

/-- The report of a scan that failed. -/
def ofScanErrors (errors : List ScanError) : GenerationReport :=
  ⟨[], errors.map .scan, []⟩

/-- True of a report without errors. -/
def isSuccess (report : GenerationReport) : Bool := report.errors.isEmpty

/-- The diagnostics of a report: errors first, then warnings. -/
def diagnostics (report : GenerationReport) : List Diagnostic :=
  report.errors.map (·.diagnostic) ++ report.warnings.map (·.diagnostic)

/-- The records of a report without errors, and the errors otherwise. -/
def result (report : GenerationReport) : Except (List GenerationError) (List FunctionRecord) :=
  if report.isSuccess then .ok report.records else .error report.errors

/-- The records of a report are its result if there are no errors. -/
theorem result_eq_ok_iff {report : GenerationReport} {records : List FunctionRecord} :
    report.result = .ok records ↔ report.isSuccess ∧ report.records = records := by
  unfold result
  split
  · rename_i hsuccess
    simp [hsuccess]
  · rename_i hfailure
    simp [hfailure]

end GenerationReport

/-- The outcome of one function. -/
def ScannedFunction.outcome (function : ScannedFunction) (catalog : Catalog)
    (conventions : Conventions) (assembly : String) : FunctionOutcome :=
  match checkFunction function catalog conventions with
  | .ok checked => ⟨.ok (checked.record conventions assembly), checked.warnings⟩
  | .error errors =>
      let (hard, soft) := errors.partition (·.isHard)
      ⟨.error hard, soft⟩

/-- Apply a function to every element, to all at the same time if asked to. -/
def mapParallel {α β : Type} (parallel : Bool) (f : α → β) (xs : List α) : List β :=
  if parallel then (xs.map fun x ↦ Task.spawn fun _ ↦ f x).map Task.get else xs.map f

/-- Working on all elements at the same time gives the same results. -/
theorem mapParallel_eq_map {α β : Type} (parallel : Bool) (f : α → β) (xs : List α) :
    mapParallel parallel f xs = xs.map f := by
  unfold mapParallel
  split
  · rw [List.map_map]
    rfl
  · rfl

namespace Program

/-- Generate the records of a program. -/
def generate (program : Program) (options : GeneratorOptions) : GenerationReport :=
  match program.scan options.conventions with
  | .error errors => .ofScanErrors errors
  | .ok functions =>
      let catalog := Catalog.forProgram program
      .ofOutcomes (mapParallel options.parallel
        (fun function ↦ function.outcome catalog options.conventions program.assembly) functions)

end Program

end FunctionBindings
