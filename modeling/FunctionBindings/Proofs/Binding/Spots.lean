import FunctionBindings.Proofs.Binding.RuleReport
import FunctionBindings.Proofs.Binding.Sites

/-!
# Spots that checks report

A check reports what it finds at a spot: at an attribute on its site, at a member that is a
response, or at the method. Spots lie in the declaration of the owner or in that of the return type,
but every error takes the file of the owner. Main statement: `exists_spot_of_mem_validate` gives the
spot of each error, and with it the cause and the span.
-/

namespace FunctionBindings

/-- A spot in the declarations of a function at which a check can report something. -/
inductive Spot where
  | onSite (site : Site) (attr : Attribute)
  /-- A member of the return type that is a response. -/
  | response (member : Member)
  /-- The method, for its return value. -/
  | returned (method : Method)

namespace Spot

/-- The span of a spot. -/
def span : Spot → Span
  | .onSite _ attr => attr.span
  | .response member => member.span
  | .returned method => method.span

/-- True of a member of the return type and of an attribute on one. -/
def isOnMember : Spot → Bool
  | .onSite site _ => site.source = .member
  | .response _ => true
  | .returned _ => false

variable (catalog : Catalog)

/-- The binding that comes from a spot. -/
def binding? : Spot → Option Binding
  | .onSite site attr => site.binding? catalog attr
  | .response member => some (.httpResponse member.name member.span)
  | .returned method => some (.httpResponse returnBindingName method.span)

/-- The legacy attribute that a spot has, with the name of what it stands on. -/
def legacy? : Spot → Option (Attribute × String)
  | .onSite site attr => site.legacy? catalog attr
  | _ => none

variable {catalog : Catalog}

/-- A binding has the span of its spot. -/
theorem span_eq_of_binding? {spot : Spot} {binding : Binding}
    (h : spot.binding? catalog = some binding) : binding.span = spot.span := by
  cases spot with
  | onSite site attr =>
      obtain ⟨spec, -, -, rfl⟩ := Site.binding?_eq_some_iff.1 h
      rfl
  | response member =>
      cases h
      rfl
  | returned method =>
      cases h
      rfl

/-- The attribute that declares a binding has the span of the spot. -/
theorem attr_span_eq_of_binding? {spot : Spot} {binding : Binding} {attr : Attribute}
    {spec : BindingSpec} (h : spot.binding? catalog = some binding)
    (horigin : binding.origin = .declared attr spec) : attr.span = spot.span := by
  cases spot with
  | onSite site other =>
      obtain ⟨found, -, -, rfl⟩ := Site.binding?_eq_some_iff.1 h
      cases horigin
      rfl
  | response member =>
      cases h
      cases horigin
  | returned method =>
      cases h
      cases horigin

/-- A binding that types do not imply is declared by an attribute. -/
theorem exists_origin_of_binding? {spot : Spot} {binding : Binding}
    (h : spot.binding? catalog = some binding) (hsource : binding.source ≠ .synthesized) :
    ∃ attr spec, binding.origin = .declared attr spec := by
  cases spot with
  | onSite site attr =>
      obtain ⟨spec, -, -, rfl⟩ := Site.binding?_eq_some_iff.1 h
      exact ⟨attr, spec, rfl⟩
  | response member =>
      cases h
      exact absurd rfl hsource
  | returned method =>
      cases h
      exact absurd rfl hsource

/-- A legacy attribute has the span of its spot. -/
theorem attr_span_eq_of_legacy? {spot : Spot} {entry : Attribute × String}
    (h : spot.legacy? catalog = some entry) : entry.1.span = spot.span := by
  cases spot with
  | onSite site attr =>
      obtain ⟨-, rfl⟩ := Site.legacy?_eq_some_iff.1 h
      rfl
  | response member => cases h
  | returned method => cases h

end Spot

/-- True of a cause that is about the binding of a spot, or about its legacy attribute. -/
def CheckCause.IsAbout (catalog : Catalog) (spot : Spot) : CheckCause → Prop
  | .multipleMethodOutputs attributes => ∃ binding attr spec,
      spot.binding? catalog = some binding ∧ binding.source = .method ∧
        binding.origin = .declared attr spec ∧ attr.name ∈ attributes
  | .multipleMemberOutputs member => ∃ binding,
      spot.binding? catalog = some binding ∧ binding.source = .member ∧ binding.name = member
  | .multipleHttpResponses bindings => ∃ binding,
      spot.binding? catalog = some binding ∧ binding.isHttpResponse ∧ binding.name ∈ bindings
  | .malformedAttribute name target count _ => ∃ binding attr spec,
      spot.binding? catalog = some binding ∧ binding.origin = .declared attr spec ∧
        attr.name = name ∧ binding.name = target ∧ attr.arguments.length = count
  | .duplicateBindingName name => ∃ binding,
      spot.binding? catalog = some binding ∧ binding.name = name
  | .legacyBinding name target => ∃ attr,
      spot.legacy? catalog = some (attr, target) ∧ attr.name = name

namespace ScannedFunction

variable (function : ScannedFunction) (conventions : Conventions)

/-- The spots of a function: its attributes on their sites, the members of its return type that are
responses, and its method. -/
def spots : List Spot :=
  ((function.siteAttributes conventions).map fun entry ↦ .onSite entry.1 entry.2) ++
    ((function.consideredMembers conventions).filter fun member ↦
      conventions.isHttpResponse member.type).map .response ++ [.returned function.method]

variable {function : ScannedFunction} {catalog : Catalog} {conventions : Conventions}

/-- Every binding of a function comes from one of its spots. -/
theorem exists_spot_of_mem_bindings {binding : Binding}
    (h : binding ∈ (function.classify catalog conventions).bindings) :
    ∃ spot ∈ function.spots conventions, spot.binding? catalog = some binding := by
  cases hresponse : binding.isHttpResponse with
  | false =>
      obtain ⟨entry, hentry, hbinding⟩ := (mem_bindings_classify_iff hresponse).1 h
      refine ⟨.onSite entry.1 entry.2, ?_, hbinding⟩
      simp only [spots, List.mem_append, List.mem_map]
      exact .inl (.inl ⟨entry, hentry, rfl⟩)
  | true =>
      have hresponses : binding ∈ (function.classify catalog conventions).httpResponses :=
        List.mem_filter.2 ⟨h, hresponse⟩
      have hreturned : binding = function.returnResponse →
          ∃ spot ∈ function.spots conventions, spot.binding? catalog = some binding := by
        rintro rfl
        exact ⟨.returned function.method, by simp [spots], rfl⟩
      rw [httpResponses_eq] at hresponses
      split at hresponses
      · cases hresponses
      · rename_i hvoid
        split at hresponses
        · exact hreturned (List.mem_singleton.1 hresponses)
        · rename_i hnone
          obtain hmember | hneeded := List.mem_append.1 hresponses
          · obtain ⟨member, hfound, rfl⟩ := List.mem_map.1 hmember
            refine ⟨.response member, ?_, rfl⟩
            have hconsidered : function.consideredMembers conventions = function.returnMembers := by
              simp [consideredMembers, hvoid, hnone]
            simp only [spots, hconsidered, List.mem_append, List.mem_map]
            exact .inl (.inr ⟨member, hfound, rfl⟩)
          · split at hneeded
            · exact hreturned (List.mem_singleton.1 hneeded)
            · cases hneeded

/-- Every legacy attribute of a function is noted at one of its spots. -/
theorem exists_spot_of_mem_legacy {entry : Attribute × String}
    (h : entry ∈ (function.classify catalog conventions).legacy) :
    ∃ spot ∈ function.spots conventions, spot.legacy? catalog = some entry := by
  obtain ⟨found, hfound, hentry⟩ := mem_legacy_classify_iff.1 h
  refine ⟨.onSite found.1 found.2, ?_, hentry⟩
  simp only [spots, List.mem_append, List.mem_map]
  exact .inl (.inl ⟨found, hfound, rfl⟩)

/-- An error about a binding is reported at the spot that the binding comes from. -/
theorem exists_spot_of_error {binding : Binding} {cause : CheckCause}
    (hbinding : binding ∈ (function.classify catalog conventions).bindings)
    (habout : ∀ spot : Spot, spot.binding? catalog = some binding → cause.IsAbout catalog spot) :
    ∃ spot ∈ function.spots conventions, cause.IsAbout catalog spot ∧
      function.error binding.span cause = function.error spot.span cause := by
  obtain ⟨spot, hspot, hfrom⟩ := exists_spot_of_mem_bindings hbinding
  exact ⟨spot, hspot, habout spot hfrom, by rw [Spot.span_eq_of_binding? hfrom]⟩

/-- What the rules on the shape report, they report at a spot of the function that the cause is
about. -/
theorem exists_spot_of_mem_checkShape {error : CheckError}
    (h : error ∈ function.checkShape (function.classify catalog conventions)) :
    ∃ spot ∈ function.spots conventions,
      error.cause.IsAbout catalog spot ∧ error = function.error spot.span error.cause := by
  simp only [checkShape, List.mem_append] at h
  obtain ((hmethod | hmember) | hresponse) | hconstructor := h
  · rw [checkMethodOutputs_eq] at hmethod
    obtain ⟨second, hsecond, rfl⟩ := List.mem_map.1 hmethod
    have hmem := List.mem_of_getElem? (Option.mem_toList.1 hsecond)
    obtain ⟨hbinding, hsource⟩ := List.mem_filter.1 hmem
    have hsource : second.source = .method := by simpa using hsource
    refine exists_spot_of_error hbinding fun spot hfrom ↦ ?_
    obtain ⟨attr, spec, horigin⟩ := Spot.exists_origin_of_binding? hfrom (by rw [hsource]; decide)
    refine ⟨second, attr, spec, hfrom, hsource, horigin, List.mem_filterMap.2 ⟨second, hmem, ?_⟩⟩
    rw [Binding.attribute?, horigin]
    rfl
  · rw [checkMemberOutputs_eq] at hmember
    obtain ⟨second, hsecond, rfl⟩ := List.mem_map.1 hmember
    obtain ⟨hbinding, hsource⟩ := List.mem_filter.1 (mem_of_mem_selectAfter hsecond)
    exact exists_spot_of_error hbinding fun spot hfrom ↦
      ⟨second, hfrom, by simpa using hsource, rfl⟩
  · rw [checkHttpResponses_eq] at hresponse
    obtain ⟨second, hsecond, rfl⟩ := List.mem_map.1 hresponse
    have hmem := List.mem_of_getElem? (Option.mem_toList.1 hsecond)
    obtain ⟨hbinding, hsynthesized⟩ := List.mem_filter.1 hmem
    exact exists_spot_of_error hbinding fun spot hfrom ↦
      ⟨second, hfrom, hsynthesized, List.mem_map_of_mem hmem⟩
  · obtain ⟨binding, hbinding, herror⟩ := List.mem_filterMap.1 hconstructor
    rw [checkConstructor_eq] at herror
    split at herror
    · cases herror
    · rename_i attr spec horigin
      split at herror
      · cases herror
      · cases herror
        obtain ⟨spot, hspot, hfrom⟩ := exists_spot_of_mem_bindings hbinding
        refine ⟨spot, hspot, ⟨binding, attr, spec, hfrom, horigin, rfl, rfl, rfl⟩, ?_⟩
        rw [Spot.attr_span_eq_of_binding? hfrom horigin]
        rfl

/-- What a check of the rules reports, it reports at a spot of the function that its cause is
about. -/
theorem exists_spot_of_mem_validate {error : CheckError}
    (h : error ∈ function.validate (function.classify catalog conventions)) :
    ∃ spot ∈ function.spots conventions,
      error.cause.IsAbout catalog spot ∧ error = function.error spot.span error.cause := by
  simp only [validate, List.mem_append] at h
  obtain (hshape | hname) | hlegacy := h
  · exact exists_spot_of_mem_checkShape hshape
  · split at hname
    · rw [checkUniqueNames_eq] at hname
      obtain ⟨later, hlater, rfl⟩ := List.mem_map.1 hname
      obtain ⟨hbinding, -⟩ := List.mem_filter.1 (mem_of_mem_selectAfter hlater)
      exact exists_spot_of_error hbinding fun spot hfrom ↦ ⟨later, hfrom, rfl⟩
    · cases hname
  · obtain ⟨entry, hentry, rfl⟩ := List.mem_map.1 hlegacy
    obtain ⟨spot, hspot, hfrom⟩ := exists_spot_of_mem_legacy hentry
    refine ⟨spot, hspot, ⟨entry.1, hfrom, rfl⟩, ?_⟩
    rw [Spot.attr_span_eq_of_legacy? hfrom]
    rfl

end ScannedFunction

end FunctionBindings
