import FunctionBindings.Proofs.Binding.CatalogSteps
import FunctionBindings.Proofs.Binding.Sites
import FunctionBindings.Proofs.Generation.Contributions

/-!
# Legacy attributes that bind

What is legacy and what binds are kept in two tables by simple name, and an attribute that is noted
as legacy is looked up all the same. So an attribute is both reported as not supported and bound
exactly if its name is in both tables (`legacy_bindings`). That happens if a marked type has the
name of a standard binding or of a type whose ancestor marks a direction, itself included
(`exists_legacy_bound`). In a program without such names no record has a descriptor of a legacy
attribute.
-/

namespace FunctionBindings

open Catalog (isMarkedLegacy markedKind?)

namespace Program

/-- True of a name that a declared attribute type with the mark of in-process bindings has. -/
def MarksLegacy (program : Program) (name : String) : Prop :=
  ∃ type ∈ program.attributeTypes,
    isMarkedLegacy type ∧ type.simpleName = simpleAttributeName name

/-- True of a name that a declared attribute type with a marked direction has, or a standard
binding. -/
def Binds (program : Program) (name : String) : Prop :=
  (∃ type ∈ program.attributeTypes,
    (type.base.bind markedKind?).isSome ∧ type.simpleName = simpleAttributeName name) ∨
  (Catalog.builtin.lookup? name).isSome

variable {program : Program} {name : String}

/-- The legacy names of a program are those that it marks. -/
theorem isLegacy_forProgram_iff :
    (Catalog.forProgram program).isLegacy name ↔ program.MarksLegacy name := by
  have hempty : Catalog.empty.isLegacy name = false := rfl
  rw [Catalog.forProgram_eq_run, Catalog.builtin_eq_run, Catalog.isLegacy_run,
    Catalog.isLegacy_run, hempty]
  simp [MarksLegacy]

/-- The names that the catalog of a program knows are those that bind something. -/
theorem isSome_lookup?_forProgram_iff :
    ((Catalog.forProgram program).lookup? name).isSome ↔ program.Binds name := by
  rw [Catalog.forProgram_eq_run, Catalog.lookup?, Catalog.get?_run, Option.isSome_or,
    Bool.or_eq_true, List.findSome?_isSome_iff]
  simp only [List.mem_reverse, List.mem_map, exists_exists_and_eq_and,
    CatalogStep.isSome_specFor?_declare_iff]
  rfl

/-- Names of the same simple name bind the same. -/
theorem binds_congr {other : String} (h : simpleAttributeName name = simpleAttributeName other) :
    program.Binds name ↔ program.Binds other := by
  rw [Binds, Binds, Catalog.lookup?, Catalog.lookup?, h]

end Program

namespace ScannedFunction

variable {function : ScannedFunction} {catalog : Catalog} {conventions : Conventions}
  {attr : Attribute}

/-- The attributes that are noted as legacy are those of the sites with a legacy name. -/
theorem exists_mem_legacy_iff :
    (∃ target, (attr, target) ∈ (function.classify catalog conventions).legacy) ↔
      catalog.isLegacy attr.name ∧
        ∃ site, (site, attr) ∈ function.siteAttributes conventions := by
  simp only [mem_legacy_classify_iff, Site.legacy?_eq_some_iff]
  constructor
  · rintro ⟨target, ⟨site, other⟩, hentry, hname, hnoted⟩
    cases hnoted
    exact ⟨hname, site, hentry⟩
  · rintro ⟨hname, site, hentry⟩
    exact ⟨site.name, (site, attr), hentry, hname, rfl⟩

/-- A binding that an attribute declares is no response that types imply. -/
theorem isHttpResponse_of_attribute? {binding : Binding} (h : binding.attribute? = some attr) :
    binding.isHttpResponse = false := by
  cases horigin : binding.origin <;> simp_all [Binding.attribute?, Binding.isHttpResponse]

/-- The attributes that declare bindings are those of the sites with a name that the catalog knows,
those on the method only if it is an output. -/
theorem exists_mem_bindings_iff :
    (∃ binding ∈ (function.classify catalog conventions).bindings,
      binding.attribute? = some attr) ↔
    ∃ site, (site, attr) ∈ function.siteAttributes conventions ∧
      ∃ spec, catalog.lookup? attr.name = some spec ∧
        (site.source = .method → spec.kind = .output) := by
  constructor
  · rintro ⟨binding, hbinding, hattr⟩
    obtain ⟨⟨site, other⟩, hentry, hdeclared⟩ :=
      (mem_bindings_classify_iff (isHttpResponse_of_attribute? hattr)).1 hbinding
    obtain ⟨spec, hspec, hkind, rfl⟩ := Site.binding?_eq_some_iff.1 hdeclared
    cases hattr
    exact ⟨site, hentry, spec, hspec, hkind⟩
  · rintro ⟨site, hentry, spec, hspec, hkind⟩
    refine ⟨.declared site.bindingName site.source site.dataType attr spec, ?_, rfl⟩
    rw [mem_bindings_classify_iff rfl]
    exact ⟨(site, attr), hentry, Site.binding?_eq_some_iff.2 ⟨spec, hspec, hkind, rfl⟩⟩

end ScannedFunction

section

variable {program : Program} {conventions : Conventions} {function : ScannedFunction}

/-- An attribute of a function is noted as legacy and declares a binding exactly if its name is
marked and binds something, an output if the attribute stands on the method. -/
theorem legacy_and_bound_iff {attr : Attribute} :
    (∃ target, (attr, target) ∈ (function.classify (.forProgram program) conventions).legacy) ∧
      (∃ binding ∈ (function.classify (.forProgram program) conventions).bindings,
        binding.attribute? = some attr) ↔
    program.MarksLegacy attr.name ∧ program.Binds attr.name ∧
      ∃ site, (site, attr) ∈ function.siteAttributes conventions ∧
        (site.source = .method →
          ∀ spec, (Catalog.forProgram program).lookup? attr.name = some spec →
            spec.kind = .output) := by
  rw [ScannedFunction.exists_mem_legacy_iff, ScannedFunction.exists_mem_bindings_iff,
    Program.isLegacy_forProgram_iff, ← Program.isSome_lookup?_forProgram_iff,
    Option.isSome_iff_exists]
  constructor
  · rintro ⟨⟨hmarked, -⟩, site, hentry, spec, hspec, hkind⟩
    refine ⟨hmarked, ⟨spec, hspec⟩, site, hentry, fun hmethod other hother ↦ ?_⟩
    cases hspec.symm.trans hother
    exact hkind hmethod
  · rintro ⟨hmarked, ⟨spec, hspec⟩, site, hentry, hkind⟩
    exact ⟨⟨hmarked, site, hentry⟩, site, hentry, spec, hspec,
      fun hmethod ↦ hkind hmethod spec hspec⟩

/-- If no marked name binds anything, then no name that binds something is marked. -/
theorem Program.not_marksLegacy_of_binds
    (hdisjoint : ∀ type ∈ program.attributeTypes, isMarkedLegacy type → ¬ program.Binds type.name)
    {name : String} (hbinds : program.Binds name) : ¬ program.MarksLegacy name := by
  rintro ⟨type, htype, hmarked, hname⟩
  exact hdisjoint type htype hmarked ((Program.binds_congr hname).2 hbinds)

/-- If no marked name binds anything, then bindings come from attributes without a mark. -/
theorem not_marksLegacy_of_mem_bindings
    (hdisjoint : ∀ type ∈ program.attributeTypes, isMarkedLegacy type → ¬ program.Binds type.name)
    {binding : Binding} {attr : Attribute}
    (hbinding : binding ∈ (function.classify (.forProgram program) conventions).bindings)
    (hattr : binding.attribute? = some attr) : ¬ program.MarksLegacy attr.name := by
  obtain ⟨-, -, spec, hspec, -⟩ :=
    ScannedFunction.exists_mem_bindings_iff.1 ⟨binding, hbinding, hattr⟩
  refine Program.not_marksLegacy_of_binds hdisjoint ?_
  rw [← Program.isSome_lookup?_forProgram_iff, hspec]
  rfl

end

/-- An attribute of a function is noted as legacy and declares a binding exactly if its name is
marked as in-process and also binds something, an output if the attribute stands on the method. In a
program without a marked name that binds something, no attribute is both, and no record has a
descriptor of an attribute with a marked name. -/
theorem legacy_bindings (program : Program) (options : GeneratorOptions) :
    let found (function : ScannedFunction) :=
      function.classify (.forProgram program) options.conventions
    (∀ function attr,
      (∃ target, (attr, target) ∈ (found function).legacy) ∧
        (∃ binding ∈ (found function).bindings, binding.attribute? = some attr) ↔
      program.MarksLegacy attr.name ∧ program.Binds attr.name ∧
        ∃ site, (site, attr) ∈ function.siteAttributes options.conventions ∧
          (site.source = .method →
            ∀ spec, (Catalog.forProgram program).lookup? attr.name = some spec →
              spec.kind = .output)) ∧
    ((∀ type ∈ program.attributeTypes, isMarkedLegacy type → ¬ program.Binds type.name) →
      (∀ function, ∀ entry ∈ (found function).legacy, ∀ binding ∈ (found function).bindings,
        binding.attribute? ≠ some entry.1) ∧
      ∀ record ∈ (program.generate options).records,
        ∃ function ∈ functionsOf (program.scanOutcomes options.conventions),
          record.name = function.name ∧ record.entryPoint = function.entryPoint ∧
          ∀ text ∈ record.rawBindings, ∃ binding ∈ (found function).bindings,
            text = binding.descriptor.text ∧
            ∀ attr, binding.attribute? = some attr → ¬ program.MarksLegacy attr.name) := by
  intro found
  refine ⟨fun function attr ↦ legacy_and_bound_iff, fun hdisjoint ↦ ⟨?_, ?_⟩⟩
  · intro function entry hentry binding hbinding hattr
    obtain ⟨hlegacy, -⟩ := ScannedFunction.exists_mem_legacy_iff.1 ⟨entry.2, hentry⟩
    exact not_marksLegacy_of_mem_bindings hdisjoint hbinding hattr
      (Program.isLegacy_forProgram_iff.1 hlegacy)
  · intro record hrecord
    obtain ⟨function, hfunction, rfl⟩ := program.exists_function_of_mem_records options hrecord
    refine ⟨function, hfunction, rfl, rfl, ?_⟩
    intro text htext
    obtain ⟨binding, hbinding, rfl⟩ := List.mem_map.1 htext
    exact ⟨binding, hbinding, rfl, fun attr ↦ not_marksLegacy_of_mem_bindings hdisjoint hbinding⟩

namespace MarkedType

/-- An attribute type of the in-process model, whose ancestor marks no direction. -/
def type (name : String) : AttributeType :=
  (AttributeType.of ("Microsoft.Azure.WebJobs." ++ name ++ "Attribute")
    "System.Attribute").withMarker "Microsoft.Azure.WebJobs.Description.BindingAttribute"

/-- An attribute of that type. -/
def attr (name : String) : Attribute :=
  ((Attribute.named ("Microsoft.Azure.WebJobs." ++ name)).withArgument
    (.string "images/new")).withSpan ⟨30, 60⟩

/-- A method with a parameter for a queue and one with that attribute. -/
def method (name : String) : Method :=
  ((((Method.of "Run" .void).annotated
    ((Attribute.named "Function").withArgument (.string "Copy"))).withParam
      ((Parameter.of "message" (.named "string" [])).annotated
        ((Attribute.named "QueueTrigger").withArgument (.string "orders")))).withParam
      ((Parameter.of "blob" (.named "string" [])).annotated (attr name))).withSpan ⟨10, 90⟩

/-- The type that owns the method. -/
def owner (name : String) : DeclaredType :=
  ((DeclaredType.of "Images").inFile "Images.cs").withMethod (method name)

/-- The program of the attribute type and the owner. -/
def program (name : String) : Program :=
  ((Program.of "Shop").withAttributeType (type name)).withType (owner name)

/-- The function of the program. -/
def function (name : String) : ScannedFunction :=
  ⟨"Copy", "Shop.Images.Run", owner name, method name, none⟩

/-- What is found on the function. -/
def found (name : String) : Classification :=
  (function name).classify (.forProgram (program name)) .standard

/-- The binding that the standard blob trigger declares. -/
def binding : Binding :=
  .declared "blob" .parameter (some .string) (attr "BlobTrigger")
    ⟨"BlobTrigger", "BlobTrigger", .trigger, [["path"]], []⟩

/-- An attribute with the name of a standard binding is noted as legacy and declares that binding,
whose descriptor is in the record. -/
theorem exists_legacy_bound :
    function "BlobTrigger" ∈ functionsOf ((program "BlobTrigger").scanOutcomes .standard) ∧
    (attr "BlobTrigger", "blob") ∈ (found "BlobTrigger").legacy ∧
    binding ∈ (found "BlobTrigger").bindings ∧ binding.attribute? = some (attr "BlobTrigger") ∧
    ∃ record ∈ ((program "BlobTrigger").generate .standard).records,
      binding.descriptor.text ∈ record.rawBindings := by
  have hfunctions : functionsOf ((program "BlobTrigger").scanOutcomes .standard) =
      [function "BlobTrigger"] := rfl
  have hlegacy : (found "BlobTrigger").legacy = [(attr "BlobTrigger", "blob")] := rfl
  have hbinding : (found "BlobTrigger").bindings[1]? = some binding := rfl
  have hraw : (((program "BlobTrigger").generate .standard).records.flatMap (·.rawBindings))[1]? =
      some binding.descriptor.text := rfl
  obtain ⟨record, hrecord, hdescriptor⟩ := List.mem_flatMap.1 (List.mem_of_getElem? hraw)
  rw [hfunctions, hlegacy]
  exact ⟨List.mem_singleton_self _, List.mem_singleton_self _, List.mem_of_getElem? hbinding, rfl,
    record, hrecord, hdescriptor⟩

/-- A marked type with the name of no binding gives no binding. -/
theorem legacy_bindings_table :
    (∀ type ∈ (program "Table").attributeTypes,
      isMarkedLegacy type → ¬ (program "Table").Binds type.name) ∧
    (attr "Table", "blob") ∈ (found "Table").legacy ∧ (found "Table").bindings ≠ [] ∧
    ∀ binding ∈ (found "Table").bindings, binding.attribute? ≠ some (attr "Table") := by
  have hdisjoint : ∀ type ∈ (program "Table").attributeTypes,
      isMarkedLegacy type → ¬ (program "Table").Binds type.name := by
    intro type htype _ hbinds
    rw [← Program.isSome_lookup?_forProgram_iff] at hbinds
    cases List.mem_singleton.1 htype
    revert hbinds
    decide
  have hlegacy : (found "Table").legacy = [(attr "Table", "blob")] := rfl
  have hmem : (attr "Table", "blob") ∈ (found "Table").legacy := by
    rw [hlegacy]
    exact List.mem_singleton_self _
  have hbindings : (found "Table").bindings ≠ [] := List.cons_ne_nil _ _
  exact ⟨hdisjoint, hmem, hbindings, ((legacy_bindings (program "Table") .standard).2
    hdisjoint).1 (function "Table") _ hmem⟩

end MarkedType

end FunctionBindings
