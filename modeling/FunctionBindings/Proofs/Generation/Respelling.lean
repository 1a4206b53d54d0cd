import FunctionBindings.Proofs.Binding.Respelling
import FunctionBindings.Proofs.Generation.Comparison

/-!
# Reports of respelled programs

How attributes are spelled, and where declarations stand, has no part in the metadata: a respelled
program has the same records, and errors and warnings with the same codes in the same order. Main
statement: `generate_respelled`.
-/

namespace FunctionBindings

/-- A respelled attribute has the same properties. -/
theorem Attribute.Respelled.properties_eq {attr other : Attribute} (h : attr.Respelled other)
    (spec : BindingSpec) : attr.properties spec = other.properties spec := by
  rw [properties, properties, argumentEntries, argumentEntries, h.arguments, h.namedArguments]

/-- A respelled binding has the same descriptor. -/
theorem Binding.Respelled.descriptor_eq {binding other : Binding} (h : binding.Respelled other) :
    binding.descriptor = other.descriptor := by
  have horigin := h.origin
  rw [descriptor, descriptor, h.name, h.direction, h.dataType]
  generalize binding.origin = origin at horigin ⊢
  generalize other.origin = origin' at horigin ⊢
  cases horigin with
  | httpResponse => rfl
  | declared hattr spec => simp only [hattr.properties_eq]

/-- Whether an error blocks its function shows in its code. -/
theorem CheckError.isHard_eq_code_bne (error : CheckError) :
    error.isHard = (error.code != "W-BIND-001") := by
  unfold isHard code
  cases error.cause <;> rfl

/-- The codes of the errors that block are the codes other than that of the warning. -/
theorem map_code_filter_isHard (errors : List CheckError) :
    (errors.filter (·.isHard)).map (·.code) =
      (errors.map (·.code)).filter (· != "W-BIND-001") := by
  simp only [CheckError.isHard_eq_code_bne, List.filter_map]
  rfl

/-- The codes of the errors that do not block are the codes of the warning. -/
theorem map_code_filter_not_isHard (errors : List CheckError) :
    (errors.filter (!·.isHard)).map (·.code) =
      (errors.map (·.code)).filter (!· != "W-BIND-001") := by
  simp only [CheckError.isHard_eq_code_bne, List.filter_map]
  rfl

/-- Whether an error blocks shows in the codes. -/
theorem any_isHard_eq (errors : List CheckError) :
    errors.any (·.isHard) = (errors.map (·.code)).any (· != "W-BIND-001") := by
  simp only [CheckError.isHard_eq_code_bne, List.any_map]
  rfl

/-- A respelled function adds the same record, or errors with the same codes, and warnings with the
same codes. -/
theorem ScannedFunction.Respelled.alike_contribution {function other : ScannedFunction}
    (h : function.Respelled other) (catalog : Catalog) (conventions : Conventions)
    (assembly : String) :
    (function.contribution catalog conventions assembly).Alike GenerationError.code
      (other.contribution catalog conventions assembly) := by
  have hclassify : (function.classify catalog conventions).Respelled
      (other.classify catalog conventions) := h.respelled_classify
  have hcodes : (function.reported catalog conventions).map (·.code) =
      (other.reported catalog conventions).map (·.code) :=
    map_code_validate hclassify function other
  have hrecord : function.fullRecord catalog conventions assembly =
      other.fullRecord catalog conventions assembly := by
    have hbindings := map_eq_of_forall₂ hclassify.bindings fun binding other hsame ↦
      congrArg Descriptor.text (Binding.Respelled.descriptor_eq hsame)
    rw [fullRecord, fullRecord, h.name, h.entryPoint, hbindings]
  have hhard : ((function.reported catalog conventions).filter (·.isHard)).map (·.code) =
      ((other.reported catalog conventions).filter (·.isHard)).map (·.code) := by
    rw [map_code_filter_isHard, map_code_filter_isHard, hcodes]
  have hsoft : ((function.reported catalog conventions).filter (!·.isHard)).map (·.code) =
      ((other.reported catalog conventions).filter (!·.isHard)).map (·.code) := by
    rw [map_code_filter_not_isHard, map_code_filter_not_isHard, hcodes]
  refine ⟨?_, hhard, hsoft⟩
  simp only [contribution, any_isHard_eq, hcodes, hrecord]

/-- A program whose attributes, attribute types, ancestors and markers are spelled in another way
with the same simple names, and whose declarations stand elsewhere, has the same records, and errors
and warnings with the same codes in the same order. -/
theorem generate_respelled {program program' : Program} (h : program.Respelled program')
    (options : GeneratorOptions) :
    let report := program.generate options
    let report' := program'.generate options
    report'.records = report.records ∧
      report'.errors.map (·.code) = report.errors.map (·.code) ∧
      report'.warnings.map (·.code) = report.warnings.map (·.code) := by
  have halike : (program.generate options).Alike GenerationError.code
      (program'.generate options) := by
    rw [program.generate_eq_ofScanOutcomes, program'.generate_eq_ofScanOutcomes]
    refine alike_ofScanOutcomes respelledComparison h.forall₂_scanOutcomes ?_ ?_
    · intro error other hcause
      have hsame : error.cause = other.cause := hcause
      rw [GenerationError.code, GenerationError.code, ScanError.code, ScanError.code, hsame]
    · intro function other hfunction
      rw [Program.contributionOf, Program.contributionOf, ← h.forProgram_eq, ← h.assembly]
      exact ScannedFunction.Respelled.alike_contribution hfunction _ _ _
  exact ⟨halike.records.symm, halike.errors.symm, halike.warnings.symm⟩

namespace OrderSpelling

/-- A parameter with a trigger. -/
def param (triggerName : String) (span : Span) : Parameter :=
  (Parameter.of "order" (.named "System.String" [])).annotated
    (((Attribute.named triggerName).withArgument (.string "orders")).withSpan span)

/-- A program with one function and with an attribute type of its own. -/
def program (entryName outputName baseName file : String) (order : Parameter) : Program :=
  ((Program.of "Shop").withAttributeType (.of outputName baseName)).withType
    (((DeclaredType.of "Orders").inFile file).withMethod
      ((((Method.of "Run" .void).annotated
          ((Attribute.named entryName).withArgument (.string "Orders"))).annotated
            (.named outputName)).withParam order))

/-- The program as it is often written. -/
def short : Program :=
  program "Function" "Ledger" "OutputBinding" "Orders.cs" (param "QueueTrigger" .unknown)

/-- The program with all names in full. -/
def full : Program :=
  program "Microsoft.Azure.Functions.Worker.FunctionAttribute" "Shop.LedgerAttribute"
    "Abstractions.OutputBindingAttribute" "Shop.cs" (param "Worker.QueueTriggerAttribute" ⟨12, 5⟩)

/-- Names in full give the same records. -/
theorem generate_respelled_full :
    short.Respelled full ∧
      (full.generate .standard).records = (short.generate .standard).records := by
  have hentry : SameSimpleName "Function" "Microsoft.Azure.Functions.Worker.FunctionAttribute" := by
    decide
  have houtput : SameSimpleName "Ledger" "Shop.LedgerAttribute" := by decide
  have hbase : SameSimpleName "OutputBinding" "Abstractions.OutputBindingAttribute" := by decide
  have htrigger : SameSimpleName "QueueTrigger" "Worker.QueueTriggerAttribute" := by decide
  have hparam : (param "QueueTrigger" .unknown).Respelled
      (param "Worker.QueueTriggerAttribute" ⟨12, 5⟩) :=
    ⟨rfl, rfl, .cons ⟨htrigger, rfl, rfl⟩ .nil⟩
  have hrespelled : short.Respelled full :=
    ⟨rfl, .cons ⟨houtput, .some hbase, rfl, .nil⟩ .nil,
      .cons ⟨rfl, rfl, .nil,
        .cons ⟨rfl, .cons ⟨hentry, rfl, rfl⟩ (.cons ⟨houtput, rfl, rfl⟩ .nil),
          .cons hparam .nil, rfl⟩ .nil⟩ .nil⟩
  exact ⟨hrespelled, (generate_respelled hrespelled .standard).1⟩

end OrderSpelling

end FunctionBindings
