import FunctionBindings.Proofs.Generation.SameCandidates

/-!
# Insertions without effect

An attribute that binds nothing, is not legacy and marks no entry point can be inserted anywhere: on
a method, on a parameter, or on a member. So can a method that is no candidate. Such an insertion
(`Program.Gains`) leaves every candidate the same up to idle attributes, so the report stays the
same: `generate_of_gains`.
-/

namespace FunctionBindings

/-- One list is the other with one more element, which has a property. -/
inductive GainsOne {α : Type} (P : α → Prop) : List α → List α → Prop where
  | intro (front back : List α) {x : α} (hx : P x) : GainsOne P (front ++ back) (front ++ x :: back)

/-- One list is the other with one of its elements changed. -/
inductive ChangesOne {α : Type} (R : α → α → Prop) : List α → List α → Prop where
  | intro (front back : List α) {x y : α} (h : R x y) :
      ChangesOne R (front ++ x :: back) (front ++ y :: back)

section

variable {α : Type} {xs ys : List α}

/-- A filter does not see an element that it drops. -/
theorem GainsOne.filter_eq {P : α → Prop} {keep : α → Bool} (h : GainsOne P xs ys)
    (hdropped : ∀ x, P x → keep x = false) : xs.filter keep = ys.filter keep := by
  obtain ⟨front, back, hx⟩ := h
  simp [hdropped _ hx]

/-- A change of one element relates the lists if it relates the element to itself. -/
theorem ChangesOne.forall₂ {R S : α → α → Prop} (h : ChangesOne R xs ys) (hrefl : ∀ x, S x x)
    (hchange : ∀ x y, R x y → S x y) : List.Forall₂ S xs ys := by
  obtain ⟨front, back, h⟩ := h
  exact List.rel_append (List.forall₂_same.2 fun x _ ↦ hrefl x)
    (.cons (hchange _ _ h) (List.forall₂_same.2 fun x _ ↦ hrefl x))

/-- A map does not see a change of one element if the function does not. -/
theorem ChangesOne.map_eq {β : Type} {R : α → α → Prop} {f : α → β} (h : ChangesOne R xs ys)
    (hsame : ∀ x y, R x y → f x = f y) : xs.map f = ys.map f := by
  obtain ⟨front, back, h⟩ := h
  simp [hsame _ _ h]

end

section

variable (idle : Attribute → Prop)

/-- A parameter gains an idle attribute. -/
inductive Parameter.Gains : Parameter → Parameter → Prop where
  | annotated {param : Parameter} {attributes : List Attribute}
      (h : GainsOne idle param.attributes attributes) : Gains param { param with attributes }

/-- A member gains an idle attribute. -/
inductive Member.Gains : Member → Member → Prop where
  | annotated {member : Member} {attributes : List Attribute}
      (h : GainsOne idle member.attributes attributes) : Gains member { member with attributes }

/-- A method or one of its parameters gains an idle attribute. -/
inductive Method.Gains : Method → Method → Prop where
  | annotated {method : Method} {attributes : List Attribute}
      (h : GainsOne idle method.attributes attributes) : Gains method { method with attributes }
  | inParameter {method : Method} {params : List Parameter}
      (h : ChangesOne (Parameter.Gains idle) method.params params) :
      Gains method { method with params }

/-- A type gains a method that is no candidate, or an idle attribute on a method or a member. -/
inductive DeclaredType.Gains (conventions : Conventions) : DeclaredType → DeclaredType → Prop where
  | method {type : DeclaredType} {methods : List Method}
      (h : GainsOne (fun method ↦ method.isCandidate conventions = false) type.methods methods) :
      Gains conventions type { type with methods }
  | inMethod {type : DeclaredType} {methods : List Method}
      (h : ChangesOne (Method.Gains idle) type.methods methods) :
      Gains conventions type { type with methods }
  | inMember {type : DeclaredType} {members : List Member}
      (h : ChangesOne (Member.Gains idle) type.members members) :
      Gains conventions type { type with members }

end

/-- A program gains, in one of its types, a method without an entry-point attribute, or an attribute
that its catalog does not know, neither as a binding nor as legacy, and that is no entry-point
attribute. -/
inductive Program.Gains (conventions : Conventions) : Program → Program → Prop where
  | intro {program : Program} {types : List DeclaredType}
      (h : ChangesOne
        (DeclaredType.Gains (fun attr ↦
          (Catalog.forProgram program).lookup? attr.name = none ∧
            (Catalog.forProgram program).isLegacy attr.name = false ∧
            conventions.isEntryPoint attr.name = false) conventions)
        program.types types) :
      Gains conventions program { program with types }

section

variable {idle : Attribute → Prop} {keep : Attribute → Bool} {conventions : Conventions}
  (hidle : ∀ attr, idle attr → keep attr = false)

include hidle

/-- A parameter stays the same up to idle attributes. -/
theorem Parameter.Gains.trim_eq {param param' : Parameter} (h : Parameter.Gains idle param param') :
    param.trim keep = param'.trim keep := by
  cases h with
  | annotated h => simp only [trim, h.filter_eq hidle]

/-- A member stays the same up to idle attributes. -/
theorem Member.Gains.trim_eq {member member' : Member} (h : Member.Gains idle member member') :
    member.trim keep = member'.trim keep := by
  cases h with
  | annotated h => simp only [trim, h.filter_eq hidle]

/-- A method stays the same up to idle attributes. -/
theorem Method.Gains.trim_eq {method method' : Method} (h : Method.Gains idle method method') :
    method.trim keep = method'.trim keep := by
  cases h with
  | annotated h => simp only [trim, h.filter_eq hidle]
  | inParameter h => simp only [trim, h.map_eq fun _ _ ↦ Parameter.Gains.trim_eq hidle]

/-- A type stays the same up to its methods and idle attributes. -/
theorem DeclaredType.Gains.sameDeclaration {type type' : DeclaredType}
    (h : DeclaredType.Gains idle conventions type type') : SameDeclaration keep type type' := by
  cases h with
  | method => rfl
  | inMethod => rfl
  | inMember h => simp only [SameDeclaration, trim, h.map_eq fun _ _ ↦ Member.Gains.trim_eq hidle]

/-- A type keeps its candidates, up to idle attributes. -/
theorem DeclaredType.Gains.sameCandidates
    (hentry : ∀ method : Method, (method.trim keep).isCandidate conventions =
      method.isCandidate conventions)
    {type type' : DeclaredType} (h : DeclaredType.Gains idle conventions type type') :
    List.Forall₂ (SameCandidate keep) (candidatesOf conventions type type.methods)
      (candidatesOf conventions type' type'.methods) := by
  have hsame := h.sameDeclaration hidle
  cases h with
  | method h =>
      rw [candidatesOf, h.filter_eq fun _ ↦ id]
      exact forall₂_candidatesOf hsame conventions _
  | inMember h => exact forall₂_candidatesOf hsame conventions _
  | @inMethod methods h =>
      have hmethods : List.Forall₂ (fun method method' : Method ↦
          method.trim keep = method'.trim keep) type.methods methods :=
        h.forall₂ (fun _ ↦ rfl) fun _ _ ↦ Method.Gains.trim_eq hidle
      rw [candidatesOf, candidatesOf, List.forall₂_map_left_iff, List.forall₂_map_right_iff]
      refine (forall₂_filter hmethods ?_).imp fun method method' htrim ↦ ⟨hsame, htrim⟩
      intro method method' htrim
      rw [← hentry method, htrim, hentry]

end

/-- A report stays the same, order and all, if the program gains a method without an entry-point
attribute, or an attribute that is not in its catalog, not legacy and not the entry-point attribute,
in any place. -/
theorem generate_of_gains {program program' : Program} {options : GeneratorOptions}
    (h : Program.Gains options.conventions program program') :
    program'.generate options = program.generate options := by
  obtain @⟨types, htypes⟩ := h
  have hidle := fun attr ↦
    (@Catalog.isActive_eq_false_iff (.forProgram program) options.conventions attr).2
  have hassembly : { program with types }.assembly = program.assembly := rfl
  have hattributes : { program with types }.attributeTypes = program.attributeTypes := rfl
  rw [program.generate_eq_ofScanOutcomes]
  refine generate_of_sameCandidates hassembly hattributes ?_ ?_
  · exact htypes.forall₂ (fun _ ↦ rfl) fun _ _ ↦ DeclaredType.Gains.sameDeclaration hidle
  · rw [Program.candidates_eq_flatMap, Program.candidates_eq_flatMap]
    refine List.rel_flatMap (htypes.forall₂ ?_ ?_) fun _ _ ↦ id
    · exact fun type ↦ forall₂_sameCandidate_refl _
    · exact fun _ _ ↦ DeclaredType.Gains.sameCandidates hidle Method.isCandidate_trim

namespace OrderObsolete

/-- A method that is a function, with more attributes in front of its entry point. -/
def method (others : List Attribute) : Method :=
  { Method.of "Run" .void with
    attributes := others ++ [(Attribute.named "Function").withArgument (.string "Orders")] }

/-- The program of one type with one method. -/
def program (method : Method) : Program :=
  (Program.of "Shop").withType ((DeclaredType.of "Orders").withMethod method)

/-- An attribute that nobody knows has no effect in front of the entry point. -/
theorem generate_of_gains_obsolete :
    Program.Gains GeneratorOptions.standard.conventions (program (method []))
        (program (method [.named "Obsolete"])) ∧
      (program (method [.named "Obsolete"])).generate .standard =
        (program (method [])).generate .standard := by
  have hgains : Program.Gains GeneratorOptions.standard.conventions (program (method []))
      (program (method [.named "Obsolete"])) :=
    .intro (.intro [] [] (.inMethod (.intro [] [] (.annotated (.intro [] _ (by decide))))))
  exact ⟨hgains, generate_of_gains hgains⟩

end OrderObsolete

end FunctionBindings
