import FunctionBindings.Binding.Builtin

/-!
# What a catalog knows

A catalog is built in steps, each of which enters one spec or takes in one declared attribute type
(`CatalogStep`). A step changes what is entered under one key and nothing else, so under every key
stands what the last step for it has entered (`get?_run`). What is legacy is kept apart from that: a
name is legacy as soon as a marked type has it, and remains so (`isLegacy_run`).
-/

namespace FunctionBindings

/-- A step that builds a catalog. -/
inductive CatalogStep where
  | register (spec : BindingSpec)
  | declare (type : AttributeType)

namespace CatalogStep

/-- The spec that a step enters, if it enters one. -/
def spec? : CatalogStep → Option BindingSpec
  | .register spec => some spec
  | .declare type => Catalog.declaredSpec? type

/-- The spec that a step enters under a key. -/
def specFor? (key : String) (step : CatalogStep) : Option BindingSpec :=
  step.spec?.filter fun spec ↦ spec.attributeName = key

/-- A declared type enters its spec under its simple name, if its ancestor marks a direction. -/
theorem isSome_specFor?_declare_iff {key : String} {type : AttributeType} :
    (specFor? key (.declare type)).isSome ↔
      (type.base.bind Catalog.markedKind?).isSome ∧ type.simpleName = key := by
  rw [specFor?, spec?, Catalog.declaredSpec?]
  cases type.base.bind Catalog.markedKind? with
  | none => simp
  | some kind => by_cases hkey : type.simpleName = key <;> simp [hkey]

end CatalogStep

namespace Catalog

variable (catalog : Catalog)

/-- The catalog after a step. -/
def step (catalog : Catalog) : CatalogStep → Catalog
  | .register spec => catalog.register spec
  | .declare type => catalog.declare type

/-- The catalog after steps in order. -/
def run (catalog : Catalog) (steps : List CatalogStep) : Catalog :=
  steps.foldl step catalog

/-- Steps may be taken in two runs. -/
theorem run_append (earlier later : List CatalogStep) :
    catalog.run (earlier ++ later) = (catalog.run earlier).run later :=
  List.foldl_append

/-- The standard catalog is a run that enters the standard specs. -/
theorem builtin_eq_run : builtin = empty.run (builtinSpecs.map .register) := by
  rw [run, List.foldl_map]
  rfl

/-- The catalog of a program is a run that takes in its declared types. -/
theorem forProgram_eq_run (program : Program) :
    forProgram program = builtin.run (program.attributeTypes.map .declare) := by
  rw [run, List.foldl_map]
  rfl

/-- Remembering a type as legacy enters nothing. -/
theorem specs_noteLegacy (type : AttributeType) :
    (catalog.noteLegacy type).specs = catalog.specs := by
  unfold noteLegacy
  split <;> rfl

/-- A step enters its spec, if it has one, and leaves all other entries alone. -/
theorem specs_step (step : CatalogStep) :
    (catalog.step step).specs =
      match step.spec? with
      | some spec => catalog.specs.insert spec.attributeName spec
      | none => catalog.specs := by
  cases step with
  | register spec => rfl
  | declare type =>
      rw [Catalog.step, declare, CatalogStep.spec?]
      cases declaredSpec? type with
      | none => exact catalog.specs_noteLegacy type
      | some spec =>
          dsimp only [register]
          rw [specs_noteLegacy]

/-- A step changes what stands under a key only if it enters a spec under it. -/
theorem get?_step (step : CatalogStep) (key : String) :
    (catalog.step step).specs.get? key = (step.specFor? key).or (catalog.specs.get? key) := by
  rw [specs_step, CatalogStep.specFor?]
  cases step.spec? with
  | none => rfl
  | some spec =>
      dsimp only
      rw [Table.get?_insert, Option.filter_some]
      by_cases hkey : spec.attributeName = key <;> simp [hkey]

/-- After steps, under a key stands what the last of them that enters a spec under it has entered,
and what stood there before if none does. -/
theorem get?_run (steps : List CatalogStep) (key : String) :
    (catalog.run steps).specs.get? key =
      (steps.reverse.findSome? (CatalogStep.specFor? key)).or (catalog.specs.get? key) := by
  unfold run
  induction steps generalizing catalog with
  | nil => rfl
  | cons step steps ih =>
      rw [List.foldl_cons, ih, get?_step, List.reverse_cons, List.findSome?_append,
        List.findSome?_singleton, Option.or_assoc]

/-- Remembering a type as legacy makes its name legacy if it is marked. -/
theorem isLegacy_noteLegacy_iff (type : AttributeType) (name : String) :
    (catalog.noteLegacy type).isLegacy name ↔
      catalog.isLegacy name ∨ isMarkedLegacy type ∧ type.simpleName = simpleAttributeName name := by
  unfold noteLegacy isLegacy
  split
  · rename_i hmarked
    simp only [List.contains_iff_mem, List.mem_append, List.mem_singleton, hmarked.1, true_and]
    exact or_congr_right eq_comm
  · rename_i hkept
    -- The name is remembered already, or the type is not marked.
    simp only [List.contains_iff_mem]
    refine ⟨.inl, ?_⟩
    rintro (hlegacy | ⟨hmarked, hname⟩)
    · exact hlegacy
    · rw [← hname]
      exact Decidable.byContradiction fun hnew ↦ hkept ⟨hmarked, hnew⟩

/-- A declared type makes its name legacy if it is marked, whatever it declares. -/
theorem isLegacy_declare_iff (type : AttributeType) (name : String) :
    (catalog.declare type).isLegacy name ↔
      catalog.isLegacy name ∨ isMarkedLegacy type ∧ type.simpleName = simpleAttributeName name := by
  rw [← isLegacy_noteLegacy_iff]
  unfold declare
  cases declaredSpec? type <;> rfl

/-- After steps, the legacy names are those before and those of the marked types that were taken
in. A spec that is entered makes nothing legacy. -/
theorem isLegacy_run (steps : List CatalogStep) (name : String) :
    (catalog.run steps).isLegacy name ↔
      catalog.isLegacy name ∨
        ∃ type, .declare type ∈ steps ∧
          isMarkedLegacy type ∧ type.simpleName = simpleAttributeName name := by
  unfold run
  induction steps generalizing catalog with
  | nil => simp
  | cons step steps ih =>
      rw [List.foldl_cons, ih]
      cases step with
      | register spec =>
          have hkept : (catalog.step (.register spec)).isLegacy name = catalog.isLegacy name := rfl
          simp [hkept]
      | declare type =>
          rw [Catalog.step, isLegacy_declare_iff, or_assoc]
          simp only [List.mem_cons, CatalogStep.declare.injEq, or_and_right, exists_or,
            exists_eq_left]

end Catalog

end FunctionBindings
