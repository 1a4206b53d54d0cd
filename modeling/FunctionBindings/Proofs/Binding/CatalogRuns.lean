import FunctionBindings.Proofs.Binding.CatalogSteps
import Mathlib.Logic.Basic

/-!
# Runs of a catalog

The catalogs that a generation starts from are themselves made by steps from the empty one
(`CatalogStart.run_steps`), so what holds of runs holds of them too. Main statement:
`entries_after_steps`, which says for any steps after any of these catalogs what is known of an
attribute, when it is legacy, and how many entries there are. A step keeps every entry under the
name that its spec has (`Catalog.isKeyed_step`), and so does a run.
-/

namespace FunctionBindings

/-- The simple name of the ancestor that marks a kind. -/
def BindingKind.marker : BindingKind → String
  | .trigger => "TriggerBinding"
  | .input => "InputBinding"
  | .output => "OutputBinding"

namespace Catalog

/-- An ancestor marks a kind if its simple name is the marker of the kind. -/
theorem markedKind?_eq_some_iff {base : String} {kind : BindingKind} :
    markedKind? base = some kind ↔ simpleAttributeName base = kind.marker := by
  unfold markedKind? directionMarkers
  generalize simpleAttributeName base = simple
  -- The markers differ, so a name is compared with each of them in turn.
  by_cases htrigger : simple = "TriggerBinding"
  · subst htrigger
    cases kind <;> decide
  by_cases hinput : simple = "InputBinding"
  · subst hinput
    cases kind <;> decide
  by_cases houtput : simple = "OutputBinding"
  · subst houtput
    cases kind <;> decide
  have hnone : ∀ other : BindingKind, simple ≠ other.marker := by
    intro other
    cases other with
    | trigger => exact htrigger
    | input => exact hinput
    | output => exact houtput
  simp [Ne.symm htrigger, Ne.symm hinput, Ne.symm houtput, hnone kind]

/-- An attribute type is marked as legacy by an attribute with the simple name `Binding`. -/
theorem isMarkedLegacy_iff {type : AttributeType} :
    isMarkedLegacy type ↔ ∃ marker ∈ type.markers, simpleAttributeName marker = "Binding" := by
  have hmarker : simpleAttributeName legacyMarker = "Binding" := by decide
  simp [isMarkedLegacy, hmarker]

/-- True of a simple name and the binding type that it gives: the name without the ending `Input` or
`Output` if something stands before the ending, and the whole name if not. -/
inductive GivesBindingType : String → String → Prop where
  | input {type : String} : type ≠ "" → GivesBindingType (type ++ "Input") type
  | output {type : String} : type ≠ "" → GivesBindingType (type ++ "Output") type
  | whole {name : String} :
      (∀ before, before ≠ "" → name ≠ before ++ "Input") →
      (∀ before, before ≠ "" → name ≠ before ++ "Output") → GivesBindingType name name

/-- No name ends in both ways. -/
theorem append_input_ne_append_output (front back : String) :
    front ++ "Input" ≠ back ++ "Output" := by
  intro hsame
  have hchars := congrArg String.toList hsame
  rw [String.toList_append, String.toList_append, show "Output".toList =
    ['O'] ++ "utput".toList from rfl, ← List.append_assoc] at hchars
  exact absurd (List.append_inj_right' hchars rfl) (by decide)

/-- A name gives one binding type. -/
theorem bindingTypeOf_eq_iff {name type : String} :
    bindingTypeOf name = type ↔ GivesBindingType name type := by
  unfold bindingTypeOf
  constructor
  · rintro rfl
    cases hinput : Text.dropEnding? "Input" name with
    | some rest =>
        obtain ⟨hne, rfl⟩ := Text.dropEnding?_eq_some_iff.1 hinput
        exact .input hne
    | none =>
        cases houtput : Text.dropEnding? "Output" name with
        | some rest =>
            obtain ⟨hne, rfl⟩ := Text.dropEnding?_eq_some_iff.1 houtput
            exact .output hne
        | none =>
            exact .whole (fun before ↦ Text.ne_append_of_dropEnding?_eq_none hinput)
              (fun before ↦ Text.ne_append_of_dropEnding?_eq_none houtput)
  · intro hgives
    have hnone {ending : String} (h : ∀ before, before ≠ "" → name ≠ before ++ ending) :
        Text.dropEnding? ending name = none :=
      Option.eq_none_iff_forall_ne_some.2 fun rest hrest ↦
        let ⟨hne, hname⟩ := Text.dropEnding?_eq_some_iff.1 hrest
        h rest hne hname
    cases hgives with
    | input hne => rw [Text.dropEnding?_eq_some_iff.2 ⟨hne, rfl⟩]
    | output hne =>
        rw [hnone fun before _ hsame ↦ append_input_ne_append_output before type hsame.symm,
          Text.dropEnding?_eq_some_iff.2 ⟨hne, rfl⟩]
        rfl
    | whole hinput houtput =>
        rw [hnone hinput, hnone houtput]
        rfl

end Catalog

namespace CatalogStep

/-- True of the spec that a step supplies. A declared type supplies one if its ancestor marks a
kind: that of its simple name, with the binding type that the name gives and with the type's own
constructors. -/
inductive Supplies : CatalogStep → BindingSpec → Prop where
  | registered (spec : BindingSpec) : Supplies (.register spec) spec
  | declared {type : AttributeType} {base bindingType : String} {kind : BindingKind}
      (hbase : type.base = some base) (hmarked : simpleAttributeName base = kind.marker)
      (htype : Catalog.GivesBindingType type.simpleName bindingType) :
      Supplies (.declare type)
        { attributeName := type.simpleName
          bindingType
          kind
          constructors := type.constructors
          enumParams := [] }

/-- A step enters the spec that it supplies. -/
theorem spec?_eq_some_iff {step : CatalogStep} {spec : BindingSpec} :
    step.spec? = some spec ↔ step.Supplies spec := by
  cases step with
  | register other =>
      constructor
      · rintro ⟨⟩
        exact .registered spec
      · rintro ⟨⟩
        rfl
  | declare type =>
      simp only [spec?, Catalog.declaredSpec?, Option.map_eq_some_iff, Option.bind_eq_some_iff,
        Catalog.markedKind?_eq_some_iff]
      constructor
      · rintro ⟨kind, ⟨base, hbase, hmarked⟩, rfl⟩
        exact .declared hbase hmarked (Catalog.bindingTypeOf_eq_iff.1 rfl)
      · intro hsupplies
        cases hsupplies with
        | @declared _ base bindingType kind hbase hmarked htype =>
            exact ⟨kind, ⟨base, hbase, hmarked⟩, by rw [Catalog.bindingTypeOf_eq_iff.2 htype]⟩

/-- A step enters under a key the spec that it supplies, if that is the key's. -/
theorem specFor?_eq_some_iff {key : String} {step : CatalogStep} {spec : BindingSpec} :
    step.specFor? key = some spec ↔ step.Supplies spec ∧ spec.attributeName = key := by
  rw [specFor?, Option.filter_eq_some_iff, spec?_eq_some_iff, decide_eq_true_iff]

/-- A step enters nothing under a key if it supplies no spec of that key. -/
theorem specFor?_eq_none_iff {key : String} {step : CatalogStep} :
    step.specFor? key = none ↔ ∀ spec, step.Supplies spec → spec.attributeName ≠ key := by
  simp only [Option.eq_none_iff_forall_ne_some, ne_eq, specFor?_eq_some_iff, not_and]

/-- A declared type supplies a spec if its ancestor has the name of a marker. -/
theorem exists_supplies_declare_iff {type : AttributeType} :
    (∃ spec, (declare type).Supplies spec) ↔
      ∃ base, type.base = some base ∧
        simpleAttributeName base ∈ ["TriggerBinding", "InputBinding", "OutputBinding"] := by
  constructor
  · rintro ⟨spec, hsupplies⟩
    cases hsupplies with
    | @declared _ base _ kind hbase hmarked _ =>
        refine ⟨base, hbase, ?_⟩
        rw [hmarked]
        cases kind <;> decide
  · rintro ⟨base, hbase, hmem⟩
    simp only [List.mem_cons, List.not_mem_nil, or_false] at hmem
    have htype := Catalog.bindingTypeOf_eq_iff.1 (rfl : Catalog.bindingTypeOf type.simpleName = _)
    obtain htrigger | hinput | houtput := hmem
    · exact ⟨_, @Supplies.declared type base _ .trigger hbase htrigger htype⟩
    · exact ⟨_, @Supplies.declared type base _ .input hbase hinput htype⟩
    · exact ⟨_, @Supplies.declared type base _ .output hbase houtput htype⟩

end CatalogStep

namespace Catalog

variable {catalog : Catalog}

/-- Under a key stands a spec after steps if it is the last one that they supply for the key, or if
they supply none and it stood there before. -/
theorem get?_run_eq_some_iff {steps : List CatalogStep} {key : String} {spec : BindingSpec} :
    (catalog.run steps).specs.get? key = some spec ↔
      (∃ earlier step later, steps = earlier ++ step :: later ∧
        step.Supplies spec ∧ spec.attributeName = key ∧
        ∀ other ∈ later, ∀ found, other.Supplies found → found.attributeName ≠ key) ∨
      (∀ step ∈ steps, ∀ found, step.Supplies found → found.attributeName ≠ key) ∧
        catalog.specs.get? key = some spec := by
  rw [get?_run, Option.or_eq_some_iff, List.findSome?_eq_some_iff, List.findSome?_eq_none_iff]
  simp only [List.mem_reverse, CatalogStep.specFor?_eq_some_iff, CatalogStep.specFor?_eq_none_iff]
  refine or_congr_left ⟨?_, ?_⟩
  · rintro ⟨later, step, earlier, hsteps, ⟨hsupplies, hkey⟩, hlater⟩
    refine ⟨earlier.reverse, step, later.reverse, ?_, hsupplies, hkey, ?_⟩
    · rw [← List.reverse_reverse steps, hsteps]
      simp
    · simpa using hlater
  · rintro ⟨earlier, step, later, rfl, hsupplies, hkey, hlater⟩
    refine ⟨later.reverse, step, earlier.reverse, by simp, ⟨hsupplies, hkey⟩, ?_⟩
    simpa using hlater

/-- True of a catalog in which every spec stands under the name of its attribute. -/
def IsKeyed (catalog : Catalog) : Prop :=
  ∀ key spec, catalog.specs.get? key = some spec → spec.attributeName = key

/-- A step keeps every spec under its name. -/
theorem isKeyed_step (h : catalog.IsKeyed) (step : CatalogStep) : (catalog.step step).IsKeyed := by
  intro key spec hspec
  rw [get?_step, Option.or_eq_some_iff, CatalogStep.specFor?_eq_some_iff] at hspec
  obtain ⟨-, hkey⟩ | ⟨-, hbefore⟩ := hspec
  · exact hkey
  · exact h key spec hbefore

/-- A run keeps every spec under its name. -/
theorem isKeyed_run (h : catalog.IsKeyed) (steps : List CatalogStep) :
    (catalog.run steps).IsKeyed := by
  unfold run
  induction steps generalizing catalog with
  | nil => exact h
  | cons step steps ih => exact ih (isKeyed_step h step)

/-- The keys after steps are those before and those of the specs that the steps supply. -/
theorem mem_keys_run_iff {steps : List CatalogStep} {key : String} :
    key ∈ (catalog.run steps).specs.keys ↔
      key ∈ catalog.specs.keys ∨
        ∃ step ∈ steps, ∃ spec, step.Supplies spec ∧ spec.attributeName = key := by
  have hkeys : ∀ table : Table String BindingSpec, key ∈ table.keys ↔ table.get? key ≠ none :=
    fun table ↦ (not_iff_comm.1 (Entries.get?_eq_none_iff key table.entries).symm).symm
  rw [hkeys, hkeys, get?_run, ne_eq, Option.or_eq_none_iff, not_and_or, or_comm,
    List.findSome?_eq_none_iff]
  refine or_congr_right ?_
  simp only [List.mem_reverse, CatalogStep.specFor?_eq_none_iff, not_forall, not_not, exists_prop]

end Catalog

/-- The catalogs that generations start from. -/
inductive CatalogStart where
  | empty
  | builtin
  | forProgram (program : Program)

namespace CatalogStart

/-- The catalog to start from. -/
def catalog : CatalogStart → Catalog
  | .empty => .empty
  | .builtin => .builtin
  | .forProgram program => .forProgram program

/-- The steps that have made the catalog to start from: the standard specs are entered, and then the
types that a program declares are taken in. -/
def steps : CatalogStart → List CatalogStep
  | .empty => []
  | .builtin => Catalog.builtinSpecs.map .register
  | .forProgram program =>
      Catalog.builtinSpecs.map .register ++ program.attributeTypes.map .declare

/-- A catalog to start from is what its steps make of the empty one. -/
theorem run_steps (start : CatalogStart) : Catalog.empty.run start.steps = start.catalog := by
  cases start with
  | empty => rfl
  | builtin => exact Catalog.builtin_eq_run.symm
  | forProgram program =>
      rw [steps, Catalog.run_append, ← Catalog.builtin_eq_run, ← Catalog.forProgram_eq_run, catalog]

end CatalogStart

/-- After any steps from a catalog that generations start from, an attribute is known by the last
step that supplied a spec for its simple name, or as at the start if none did, and always by a spec
of that name. A declared type supplies a spec exactly if its ancestor has the name of a marker;
otherwise it leaves all entries as they are. An attribute is legacy exactly if a declared type of
its simple name, at the start or later, has a marker with the simple name `Binding`; and there are
as many entries as different names for which a spec was supplied. -/
theorem entries_after_steps (start : CatalogStart) (steps : List CatalogStep) :
    let catalog := start.catalog.run steps
    let markers := ["TriggerBinding", "InputBinding", "OutputBinding"]
    (∀ (attr : Attribute) (spec : BindingSpec), catalog.lookup? attr.name = some spec ↔
      (∃ earlier step later, steps = earlier ++ step :: later ∧
        step.Supplies spec ∧ spec.attributeName = attr.simpleName ∧
        ∀ other ∈ later, ∀ found, other.Supplies found → found.attributeName ≠ attr.simpleName) ∨
      (∀ step ∈ steps, ∀ found, step.Supplies found → found.attributeName ≠ attr.simpleName) ∧
        start.catalog.lookup? attr.name = some spec) ∧
    (∀ (attr : Attribute) (spec : BindingSpec), catalog.lookup? attr.name = some spec →
      spec.attributeName = attr.simpleName) ∧
    (∀ type : AttributeType, (∃ spec, (CatalogStep.declare type).Supplies spec) ↔
      ∃ base, type.base = some base ∧ simpleAttributeName base ∈ markers) ∧
    (∀ type : AttributeType,
      (∀ base, type.base = some base → simpleAttributeName base ∉ markers) →
      (catalog.declare type).specs = catalog.specs) ∧
    (∀ attr : Attribute, catalog.isLegacy attr.name ↔
      ∃ type, .declare type ∈ start.steps ++ steps ∧ type.simpleName = attr.simpleName ∧
        ∃ marker ∈ type.markers, simpleAttributeName marker = "Binding") ∧
    ∃ keys : List String, keys.Nodup ∧ catalog.size = keys.length ∧
      ∀ key, key ∈ keys ↔
        ∃ step ∈ start.steps ++ steps, ∃ spec, step.Supplies spec ∧ spec.attributeName = key := by
  intro catalog markers
  have hrun : Catalog.empty.run (start.steps ++ steps) = catalog := by
    rw [Catalog.run_append, start.run_steps]
  refine ⟨?_, ?_, fun _ ↦ CatalogStep.exists_supplies_declare_iff, ?_, ?_, ?_⟩
  · intro attr spec
    exact Catalog.get?_run_eq_some_iff
  · intro attr spec hspec
    have hempty : Catalog.empty.IsKeyed := nofun
    have hkeyed := Catalog.isKeyed_run hempty (start.steps ++ steps)
    rw [hrun] at hkeyed
    exact hkeyed _ spec hspec
  · intro type hunmarked
    have hnone : (CatalogStep.declare type).spec? = none := by
      rw [Option.eq_none_iff_forall_ne_some]
      intro spec hspec
      obtain ⟨base, hbase, hmem⟩ := CatalogStep.exists_supplies_declare_iff.1
        ⟨spec, CatalogStep.spec?_eq_some_iff.1 hspec⟩
      exact hunmarked base hbase hmem
    have hstep := catalog.specs_step (.declare type)
    rw [hnone] at hstep
    exact hstep
  · intro attr
    have hnone : Catalog.empty.isLegacy attr.name = false := rfl
    rw [← hrun, Catalog.isLegacy_run, hnone]
    simp only [Catalog.isMarkedLegacy_iff, Bool.false_eq_true, false_or]
    refine exists_congr fun type ↦ and_congr_right fun _ ↦ ?_
    exact and_comm
  · refine ⟨catalog.specs.keys, catalog.specs.nodup_keys, ?_, ?_⟩
    · exact (List.length_map _).symm
    · intro key
      rw [← hrun, Catalog.mem_keys_run_iff]
      exact or_iff_right nofun

end FunctionBindings
