import FunctionBindings.Proofs.Binding.CatalogRuns
import FunctionBindings.Proofs.Binding.Sites
import FunctionBindings.Proofs.Generation.Contributions
import FunctionBindings.Proofs.Generation.DescriptorText

/-!
# HTTP outputs of a record

The rules count the responses that types imply, by where they come from; a record shows only the
type and the direction of a binding. No standard binding has the type of a response, but the name of
a declared attribute type may give it (`givesBindingType_http_iff`). So a record has as many HTTP
outputs as the function has responses, of which the rules allow one, and declared outputs of that
type, which no rule counts (`httpOutputs_of_mem_records`, `exists_two_http_outputs`).
-/

namespace FunctionBindings

namespace Catalog

/-- The names of attributes whose binding type is that of a response. -/
theorem givesBindingType_http_iff {name : String} :
    GivesBindingType name httpBindingType ↔ name ∈ ["http", "httpInput", "httpOutput"] := by
  constructor
  · rintro (hne | hne | _) <;> decide
  · intro h
    rw [← bindingTypeOf_eq_iff]
    simp only [List.mem_cons, List.not_mem_nil, or_false] at h
    obtain rfl | rfl | rfl := h <;> decide

/-- The standard bindings have other types. -/
theorem bindingType_ne_of_mem_builtinSpecs {spec : BindingSpec} (h : spec ∈ builtinSpecs) :
    spec.bindingType ≠ httpBindingType := by
  have hall : builtinSpecs.all (·.bindingType ≠ httpBindingType) := by decide
  exact of_decide_eq_true (List.all_eq_true.1 hall spec h)

end Catalog

/-- True of an attribute type whose bindings are outputs with the type of a response. -/
def AttributeType.IsHttpOutput (type : AttributeType) : Prop :=
  (∃ base, type.base = some base ∧ simpleAttributeName base = "OutputBinding") ∧
    type.simpleName ∈ ["http", "httpInput", "httpOutput"]

/-- True of a binding that its descriptor shows as an HTTP output. -/
def Binding.isHttpOutput (binding : Binding) : Bool :=
  binding.typeName = httpBindingType ∧ binding.direction = .output

/-- True of an HTTP output that an attribute declares. -/
def Binding.isDeclaredHttpOutput (binding : Binding) : Bool :=
  !binding.isHttpResponse && binding.isHttpOutput

/-- True of a text that reads as an object with the type of a response and the direction of
outputs. -/
def isHttpOutputText (text : String) : Bool :=
  match Json.ofText text with
  | .error _ => false
  | .ok value =>
      (value.member? "type").bind Json.string? = some httpBindingType ∧
        (value.member? "direction").bind Json.string? = some Direction.output.name

/-- A spec that the catalog of a program has for outputs with the type of a response comes from a
type that the program declares. -/
theorem Program.exists_isHttpOutput_of_lookup? {program : Program} {name : String}
    {spec : BindingSpec} (h : (Catalog.forProgram program).lookup? name = some spec)
    (htype : spec.bindingType = httpBindingType) (hkind : spec.kind = .output) :
    ∃ type ∈ program.attributeTypes,
      type.IsHttpOutput ∧ type.simpleName = simpleAttributeName name := by
  have hrun : Catalog.empty.run (CatalogStart.forProgram program).steps = .forProgram program :=
    CatalogStart.run_steps (.forProgram program)
  rw [← hrun, Catalog.lookup?, Catalog.get?_run_eq_some_iff] at h
  obtain ⟨earlier, step, later, hsteps, hsupplies, hname, -⟩ | ⟨-, hempty⟩ := h
  · have hstep : step ∈ (CatalogStart.forProgram program).steps := by simp [hsteps]
    -- The spec is a standard one or that of a declared type.
    obtain hstandard | hdeclared := List.mem_append.1 hstep
    · obtain ⟨standard, hmem, rfl⟩ := List.mem_map.1 hstandard
      cases hsupplies
      exact absurd htype (Catalog.bindingType_ne_of_mem_builtinSpecs hmem)
    · obtain ⟨type, hmem, rfl⟩ := List.mem_map.1 hdeclared
      cases hsupplies with
      | @declared _ base bindingType kind hbase hmarked hgives =>
          dsimp only at htype hkind hname
          subst htype hkind
          exact ⟨type, hmem, ⟨⟨base, hbase, hmarked⟩, Catalog.givesBindingType_http_iff.1 hgives⟩,
            hname⟩
  · cases hempty

namespace ScannedFunction

variable {function : ScannedFunction} {catalog : Catalog} {conventions : Conventions}
  {binding : Binding}

/-- The responses that types imply are HTTP outputs. -/
theorem isHttpOutput_of_isHttpResponse
    (h : binding ∈ (function.classify catalog conventions).bindings)
    (hresponse : binding.isHttpResponse) : binding.isHttpOutput := by
  have hmem : binding ∈ (function.classify catalog conventions).httpResponses :=
    List.mem_filter.2 ⟨h, hresponse⟩
  rw [httpResponses_eq] at hmem
  split at hmem
  · cases hmem
  split at hmem
  · obtain rfl := List.mem_singleton.1 hmem
    rfl
  obtain hmember | hreturn := List.mem_append.1 hmem
  · obtain ⟨member, -, rfl⟩ := List.mem_map.1 hmember
    rfl
  · split at hreturn
    · obtain rfl := List.mem_singleton.1 hreturn
      rfl
    · cases hreturn

/-- The text of a descriptor reads as an object that describes the binding. -/
theorem reads_descriptor_of_mem_classify
    (h : binding ∈ (function.classify catalog conventions).bindings) :
    ∃ members : List (String × Json),
      Json.ofText binding.descriptor.text = .ok (.object members) ∧
      binding.IsDescribedBy members := by
  have hdescriptor := descriptor_of_mem_classify h
  have hdescribed := Binding.isDescribedBy_members hdescriptor
  have htextual : ∀ member ∈ binding.descriptor.members, member.2.IsTextual := by
    refine Descriptor.isTextual_of_mem_members fun property hproperty ↦ ?_
    rw [hdescriptor] at hproperty
    exact (Binding.mem_loadedProperties hproperty).2
  obtain ⟨-, hread⟩ := Json.reads_object_of_textual hdescribed.nodup_keys htextual
  refine ⟨binding.descriptor.members, ?_, hdescribed⟩
  rw [Descriptor.text, Descriptor.toJson, Entries.ofList_of_nodup hdescribed.nodup_keys]
  exact hread

/-- The text of a descriptor shows what its binding is. -/
theorem isHttpOutputText_descriptor
    (h : binding ∈ (function.classify catalog conventions).bindings) :
    isHttpOutputText binding.descriptor.text = binding.isHttpOutput := by
  obtain ⟨members, hread, hdescribed⟩ := reads_descriptor_of_mem_classify h
  have hdirection : binding.direction.name = Direction.output.name ↔
      binding.direction = .output := by
    cases binding.direction <;> decide
  simp [isHttpOutputText, hread, Json.member?, hdescribed.type, hdescribed.direction, Json.string?,
    Binding.isHttpOutput, hdirection]

/-- The HTTP outputs of a function are the responses and the outputs of their type that attributes
declare. -/
theorem countP_isHttpOutput (function : ScannedFunction) (catalog : Catalog)
    (conventions : Conventions) :
    (function.classify catalog conventions).bindings.countP (·.isHttpOutput) =
      (function.classify catalog conventions).httpResponses.length +
        (function.classify catalog conventions).bindings.countP (·.isDeclaredHttpOutput) := by
  have hresponses : (function.classify catalog conventions).httpResponses.countP
      (·.isHttpOutput) = (function.classify catalog conventions).httpResponses.length := by
    refine List.countP_eq_length.2 fun binding hbinding ↦ ?_
    obtain ⟨hmem, hresponse⟩ := List.mem_filter.1 hbinding
    exact isHttpOutput_of_isHttpResponse hmem hresponse
  have hdeclared : (function.classify catalog conventions).bindings.countP
        (fun binding ↦ binding.isHttpOutput && !binding.isHttpResponse) =
      (function.classify catalog conventions).bindings.countP (·.isDeclaredHttpOutput) :=
    List.countP_congr fun binding _ ↦ by rw [Binding.isDeclaredHttpOutput, Bool.and_comm]
  rw [List.countP_eq_countP_filter_add (function.classify catalog conventions).bindings
      (·.isHttpOutput) (·.isHttpResponse), ← Classification.httpResponses, hresponses,
    List.countP_filter, hdeclared]

/-- The texts of a record show the HTTP outputs of its function. -/
theorem countP_isHttpOutputText_fullRecord (function : ScannedFunction) (catalog : Catalog)
    (conventions : Conventions) (assembly : String) :
    (function.fullRecord catalog conventions assembly).rawBindings.countP isHttpOutputText =
      (function.classify catalog conventions).bindings.countP (·.isHttpOutput) := by
  rw [fullRecord, List.countP_map]
  refine List.countP_congr fun binding hbinding ↦ ?_
  rw [Function.comp_apply, isHttpOutputText_descriptor hbinding]

/-- A declared HTTP output of a function of a program has an attribute of a type that the program
declares for such outputs. -/
theorem exists_isHttpOutput_of_isDeclaredHttpOutput {program : Program}
    (h : binding ∈ (function.classify (.forProgram program) conventions).bindings)
    (houtput : binding.isDeclaredHttpOutput) :
    ∃ attr, binding.attribute? = some attr ∧
      ∃ type ∈ program.attributeTypes, type.IsHttpOutput ∧ type.simpleName = attr.simpleName := by
  simp only [Binding.isDeclaredHttpOutput, Bool.and_eq_true, Bool.not_eq_true',
    Binding.isHttpOutput, decide_eq_true_eq] at houtput
  obtain ⟨hdeclared, htype, hdirection⟩ := houtput
  obtain ⟨⟨site, attr⟩, -, hbinding⟩ := (mem_bindings_classify_iff hdeclared).1 h
  obtain ⟨spec, hspec, -, rfl⟩ := Site.binding?_eq_some_iff.1 hbinding
  have hkind : spec.kind = .output := spec.direction_eq_output_iff.1 hdirection
  exact ⟨attr, rfl, Program.exists_isHttpOutput_of_lookup? hspec htype hkind⟩

end ScannedFunction

/-- The binding texts of a record that are HTTP outputs are as many as the responses of its function
and the outputs of that type that the attributes of the function declare. There is one response at
most; an output of that type is declared only by an attribute of a type that the program declares
for such outputs. So if the program declares no such type, then a record has one HTTP output at
most. -/
theorem httpOutputs_of_mem_records {program : Program} {options : GeneratorOptions}
    {record : FunctionRecord} (h : record ∈ (program.generate options).records) :
    ∃ function ∈ functionsOf (program.scanOutcomes options.conventions),
      let found := function.classify (.forProgram program) options.conventions
      record = function.fullRecord (.forProgram program) options.conventions program.assembly ∧
      record.rawBindings.countP isHttpOutputText =
        found.httpResponses.length + found.bindings.countP (·.isDeclaredHttpOutput) ∧
      found.httpResponses.length ≤ 1 ∧
      (∀ binding ∈ found.bindings, binding.isDeclaredHttpOutput →
        ∃ attr, binding.attribute? = some attr ∧
          ∃ type ∈ program.attributeTypes,
            type.IsHttpOutput ∧ type.simpleName = attr.simpleName) ∧
      ((∀ type ∈ program.attributeTypes, ¬ type.IsHttpOutput) →
        record.rawBindings.countP isHttpOutputText ≤ 1) := by
  obtain ⟨function, hfunction, hrules, rfl⟩ := program.exists_keepsRules_of_mem_records options h
  have hcount : (function.fullRecord (.forProgram program) options.conventions
      program.assembly).rawBindings.countP isHttpOutputText =
        (function.classify (.forProgram program) options.conventions).httpResponses.length +
        (function.classify (.forProgram program) options.conventions).bindings.countP
          (·.isDeclaredHttpOutput) := by
    rw [function.countP_isHttpOutputText_fullRecord, function.countP_isHttpOutput]
  have hone : (function.classify (.forProgram program)
      options.conventions).httpResponses.length ≤ 1 := by
    rw [Classification.httpResponses, ← List.countP_eq_length_filter]
    exact hrules.httpResponses
  refine ⟨function, hfunction, rfl, hcount, hone, fun binding hbinding houtput ↦
    ScannedFunction.exists_isHttpOutput_of_isDeclaredHttpOutput hbinding houtput,
    fun hundeclared ↦ ?_⟩
  have hnone : (function.classify (.forProgram program) options.conventions).bindings.countP
      (·.isDeclaredHttpOutput) = 0 := by
    refine List.countP_eq_zero.2 fun binding hbinding houtput ↦ ?_
    obtain ⟨-, -, type, hmem, hhttp, -⟩ :=
      ScannedFunction.exists_isHttpOutput_of_isDeclaredHttpOutput hbinding houtput
    exact hundeclared type hmem hhttp
  omega

namespace DeclaredOutput

/-- An attribute type whose ancestor marks outputs. -/
def type (name : String) : AttributeType := .of (name ++ "Attribute") "OutputBindingAttribute"

/-- A method with an attribute of that type, which returns an HTTP response. -/
def method (name : String) : Method :=
  (((Method.of "Run" (.named "HttpResponseData" [])).annotated
    ((Attribute.named "Function").withArgument (.string "Reply"))).annotated
      ((Attribute.named name).withSpan ⟨20, 30⟩)).withSpan ⟨10, 90⟩

/-- The type that owns the method. -/
def owner (name : String) : DeclaredType :=
  ((DeclaredType.of "Orders").inFile "Orders.cs").withMethod (method name)

/-- The program of the attribute type and the owner. -/
def program (name : String) : Program :=
  ((Program.of "Shop").withAttributeType (type name)).withType (owner name)

/-- The function of the program. -/
def function (name : String) : ScannedFunction :=
  ⟨"Reply", "Shop.Orders.Run", owner name, method name, none⟩

/-- The record of the function. -/
def record (name : String) : FunctionRecord :=
  (function name).fullRecord (.forProgram (program name)) .standard "Shop"

/-- A declared output with the type of a response stands in the record beside the response. -/
theorem exists_two_http_outputs :
    record "httpOutput" ∈ ((program "httpOutput").generate .standard).records ∧
      (record "httpOutput").rawBindings.countP isHttpOutputText = 2 := by
  have hrecords : ((program "httpOutput").generate .standard).records = [record "httpOutput"] := rfl
  have hcount : ((function "httpOutput").classify (.forProgram (program "httpOutput"))
    .standard).bindings.countP (·.isHttpOutput) = 2 := rfl
  refine ⟨hrecords ▸ List.mem_singleton_self _, ?_⟩
  rw [record, ScannedFunction.countP_isHttpOutputText_fullRecord, hcount]

/-- A declared output with a type of its own leaves the response the only HTTP output. -/
theorem httpOutputs_of_mem_records_reply :
    record "ReplyOutput" ∈ ((program "ReplyOutput").generate .standard).records ∧
      (∀ type ∈ (program "ReplyOutput").attributeTypes, ¬ type.IsHttpOutput) ∧
      (record "ReplyOutput").rawBindings.length = 2 ∧
      (record "ReplyOutput").rawBindings.countP isHttpOutputText ≤ 1 := by
  have hrecords : ((program "ReplyOutput").generate .standard).records =
    [record "ReplyOutput"] := rfl
  have hrecord : record "ReplyOutput" ∈ ((program "ReplyOutput").generate .standard).records :=
    hrecords ▸ List.mem_singleton_self _
  have hundeclared : ∀ type ∈ (program "ReplyOutput").attributeTypes, ¬ type.IsHttpOutput := by
    rintro type htype ⟨-, hname⟩
    cases List.mem_singleton.1 htype
    revert hname
    decide
  obtain ⟨-, -, -, -, -, -, hone⟩ := httpOutputs_of_mem_records hrecord
  exact ⟨hrecord, hundeclared, rfl, hone hundeclared⟩

end DeclaredOutput

end FunctionBindings
