import FunctionBindings.Scan.Candidates

/-!
# Resolved types

A type is resolved if no unresolved type occurs in it, at whatever depth of type arguments and array
elements. The search for an unresolved type goes through a reference from left to right and finds
one exactly if there is one: `TypeRef.firstUnresolved?_eq_none_iff` for a type,
`Method.hasResolvedTypes_iff` for a signature.
-/

namespace FunctionBindings

namespace TypeRef

/-- A type occurs in itself, and in whatever has it as type argument or element at some depth. -/
inductive Occurs (part : TypeRef) : TypeRef → Prop where
  | here : Occurs part part
  | generic {path : String} {generics : List TypeRef} {generic : TypeRef}
      (hmem : generic ∈ generics) (hin : Occurs part generic) : Occurs part (.named path generics)
  | element {type : TypeRef} (hin : Occurs part type) : Occurs part (.array type)

/-- True of a type in which no unresolved type occurs. -/
def IsResolved (type : TypeRef) : Prop :=
  ∀ text, ¬ Occurs (.unresolved text) type

/-- An unresolved type occurs in a named type if it occurs in a type argument. -/
theorem isResolved_named_iff {path : String} {generics : List TypeRef} :
    (named path generics).IsResolved ↔ ∀ generic ∈ generics, generic.IsResolved := by
  constructor
  · intro h generic hmem text hin
    exact h text (.generic hmem hin)
  · intro h text hin
    cases hin with
    | generic hmem hin => exact h _ hmem text hin

/-- An unresolved type occurs in an array if it occurs in its element. -/
theorem isResolved_array_iff {type : TypeRef} : (array type).IsResolved ↔ type.IsResolved := by
  constructor
  · intro h text hin
    exact h text (.element hin)
  · intro h text hin
    cases hin with
    | element hin => exact h text hin

mutual

/-- What the search in a type finds is an unresolved type that occurs in it. -/
theorem occurs_of_firstUnresolved? : ∀ (type : TypeRef) {part : TypeRef},
    type.firstUnresolved? = some part →
    ∃ text, part = .unresolved text ∧ Occurs (.unresolved text) type
  | .void, _, h => nomatch h
  | .named _ generics, _, h => by
      obtain ⟨generic, hmem, text, rfl, hin⟩ := occurs_of_firstUnresolvedOf? generics h
      exact ⟨text, rfl, .generic hmem hin⟩
  | .array element, _, h => by
      obtain ⟨text, rfl, hin⟩ := occurs_of_firstUnresolved? element h
      exact ⟨text, rfl, .element hin⟩
  | .unresolved text, _, h => ⟨text, (Option.some.inj h).symm, .here⟩

/-- What the search in a list of types finds is an unresolved type that occurs in one of them. -/
theorem occurs_of_firstUnresolvedOf? : ∀ (types : List TypeRef) {part : TypeRef},
    firstUnresolvedOf? types = some part →
    ∃ type ∈ types, ∃ text, part = .unresolved text ∧ Occurs (.unresolved text) type
  | [], _, h => nomatch h
  | type :: types, part, h => by
      rcases Option.or_eq_some_iff.1 h with hfirst | ⟨-, hlater⟩
      · exact ⟨type, List.mem_cons_self, occurs_of_firstUnresolved? type hfirst⟩
      · obtain ⟨other, hmem, hfound⟩ := occurs_of_firstUnresolvedOf? types hlater
        exact ⟨other, List.mem_cons_of_mem type hmem, hfound⟩

end

mutual

/-- The search in a type finds nothing if the type is resolved. -/
theorem firstUnresolved?_eq_none_iff : ∀ type : TypeRef,
    type.firstUnresolved? = none ↔ type.IsResolved
  | .void => by
      refine iff_of_true rfl fun text hin ↦ ?_
      cases hin
  | .named path generics => by
      rw [firstUnresolved?, firstUnresolvedOf?_eq_none_iff generics, isResolved_named_iff]
  | .array element => by
      rw [firstUnresolved?, firstUnresolved?_eq_none_iff element, isResolved_array_iff]
  | .unresolved text => iff_of_false nofun fun h ↦ h text .here

/-- The search in a list of types finds nothing if all are resolved. -/
theorem firstUnresolvedOf?_eq_none_iff : ∀ types : List TypeRef,
    firstUnresolvedOf? types = none ↔ ∀ type ∈ types, type.IsResolved
  | [] => by simp [firstUnresolvedOf?]
  | type :: types => by
      rw [firstUnresolvedOf?, Option.or_eq_none_iff, firstUnresolved?_eq_none_iff type,
        firstUnresolvedOf?_eq_none_iff types, List.forall_mem_cons]

end

end TypeRef

namespace Method

/-- True of a method whose parameters and return value have resolved types. -/
def HasResolvedTypes (method : Method) : Prop :=
  (∀ param ∈ method.params, param.type.IsResolved) ∧ method.returnType.IsResolved

/-- No parameter is found if the types of all are resolved. -/
theorem unresolvedParameter?_eq_none_iff {method : Method} :
    method.unresolvedParameter? = none ↔ ∀ param ∈ method.params, param.type.IsResolved := by
  simp only [unresolvedParameter?, List.findSome?_eq_none_iff, Option.map_eq_none_iff,
    TypeRef.firstUnresolved?_eq_none_iff]

/-- A signature is resolved if the search finds nothing in it. -/
theorem hasResolvedTypes_iff {method : Method} :
    method.HasResolvedTypes ↔
      method.unresolvedParameter? = none ∧ method.returnType.firstUnresolved? = none := by
  rw [unresolvedParameter?_eq_none_iff, TypeRef.firstUnresolved?_eq_none_iff]
  rfl

end Method

end FunctionBindings
