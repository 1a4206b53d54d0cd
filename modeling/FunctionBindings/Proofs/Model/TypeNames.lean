import FunctionBindings.Proofs.Scan.ResolvedTypes

/-!
# Names of types

A keyword and the framework name that it stands for are one type to all that goes by full names, at
whatever depth they stand (`SameUpToAliases.fullName_eq`). What goes by the path alone tells them
apart, but the last segment of a path only counts where nothing in the full name is qualified, and a
keyword counts as qualified, since the name that it stands for is
(`isDotted_fullName_eq_false_iff`).
-/

namespace FunctionBindings

namespace Text

/-- Names that stand side by side have a dot if one of them has one. -/
theorem isDotted_append (name other : String) :
    isDotted (name ++ other) = (isDotted name || isDotted other) := by
  simp [isDotted]

/-- A last segment has no dot. -/
theorem not_isDotted_lastSegment (name : String) : ¬ isDotted (lastSegment name) := by
  rw [isDotted, lastSegment, String.toList_ofList, List.contains_iff_mem]
  exact dot_notMem_lastSegmentChars name.toList

/-- A name without a dot is its own last segment. -/
theorem lastSegment_of_not_isDotted {name : String} (h : ¬ isDotted name) :
    lastSegment name = name := by
  rw [isDotted, List.contains_iff_mem] at h
  rw [lastSegment, lastSegmentChars_of_notMem h, String.ofList_toList]

end Text

namespace TypeRef

section Aliases

/-- True of a path that stands for a framework type. -/
def IsKeyword (path : String) : Prop := path ∈ aliases.map (·.1)

instance (path : String) : Decidable (IsKeyword path) :=
  inferInstanceAs (Decidable (path ∈ aliases.map (·.1)))

/-- True of paths that are the same, or a keyword and the framework name that it stands for. -/
def SamePath (path other : String) : Prop :=
  path = other ∨ (path, other) ∈ aliases ∨ (other, path) ∈ aliases

instance (path other : String) : Decidable (SamePath path other) :=
  inferInstanceAs (Decidable (_ ∨ _ ∨ _))

/-- True of a keyword and of a framework name that has a keyword. -/
def IsAlias (name : String) : Prop := IsKeyword name ∨ name ∈ aliases.map (·.2)

instance (name : String) : Decidable (IsAlias name) :=
  inferInstanceAs (Decidable (_ ∨ _))

/-- Paths that stand for the same type but are not the same are aliases. -/
theorem SamePath.eq_or_isAlias {path other : String} (h : SamePath path other) :
    path = other ∨ IsAlias path ∧ IsAlias other := by
  obtain heq | hkeyword | hframework := h
  · exact .inl heq
  · exact .inr ⟨.inl (List.mem_map_of_mem hkeyword), .inr (List.mem_map_of_mem hkeyword)⟩
  · exact .inr ⟨.inr (List.mem_map_of_mem hframework), .inl (List.mem_map_of_mem hframework)⟩

/-- A keyword is expanded to its framework name, and a framework name stands for itself. -/
theorem expandAlias_of_mem {keyword frameworkName : String}
    (h : (keyword, frameworkName) ∈ aliases) :
    expandAlias keyword = frameworkName ∧ expandAlias frameworkName = frameworkName := by
  have hall : ∀ entry ∈ aliases,
      expandAlias entry.1 = entry.2 ∧ expandAlias entry.2 = entry.2 := by decide
  exact hall _ h

/-- A keyword and its framework name are expanded to the same name. -/
theorem SamePath.expandAlias_eq {path other : String} (h : SamePath path other) :
    expandAlias path = expandAlias other := by
  obtain rfl | hkeyword | hframework := h
  · rfl
  · obtain ⟨hpath, hother⟩ := expandAlias_of_mem hkeyword
    rw [hpath, hother]
  · obtain ⟨hother, hpath⟩ := expandAlias_of_mem hframework
    rw [hpath, hother]

/-- The name that a path is expanded to has a dot if the path is a keyword or has one. -/
theorem isDotted_expandAlias_iff {path : String} :
    Text.isDotted (expandAlias path) ↔ IsKeyword path ∨ Text.isDotted path := by
  have hframework : ∀ entry ∈ aliases, Text.isDotted entry.2 := by decide
  unfold expandAlias
  cases hfound : aliases.find? (·.1 = path) with
  | some entry =>
      have hentry := List.mem_of_find?_eq_some hfound
      have hpath : entry.1 = path := by simpa using List.find?_some hfound
      exact iff_of_true (hframework entry hentry) (.inl (List.mem_map.2 ⟨entry, hentry, hpath⟩))
  | none =>
      have hplain : ¬ IsKeyword path := by
        intro hkeyword
        obtain ⟨entry, hentry, hpath⟩ := List.mem_map.1 hkeyword
        simpa [hpath] using List.find?_eq_none.1 hfound entry hentry
      exact (or_iff_right hplain).symm

/-- Different paths that stand for the same type are expanded to a name with a dot. -/
theorem SamePath.eq_of_not_isDotted {path other : String} (h : SamePath path other)
    (hplain : ¬ Text.isDotted (expandAlias path)) : path = other := by
  have hsame := h.expandAlias_eq
  obtain heq | hkeyword | hframework := h
  · exact heq
  · exact absurd (isDotted_expandAlias_iff.2 (.inl (List.mem_map_of_mem hkeyword))) hplain
  · rw [hsame] at hplain
    exact absurd (isDotted_expandAlias_iff.2 (.inl (List.mem_map_of_mem hframework))) hplain

end Aliases

section Dots

/-- A generic type has a dot in its name if the path is expanded to one with a dot, or a type
argument has one. -/
theorem isDotted_fullName_named (path : String) (generics : List TypeRef) :
    Text.isDotted (named path generics).fullName =
      (Text.isDotted (expandAlias path) || Text.isDotted (fullNames generics)) := by
  have hcomma : Text.isDotted ", " = false := by decide
  have hopen : Text.isDotted "<" = false := by decide
  have hclose : Text.isDotted ">" = false := by decide
  have hempty : Text.isDotted "" = false := by decide
  cases generics with
  | nil => rw [fullName, fullNames, hempty, Bool.or_false]
  | cons generic generics =>
      simp only [fullName, fullNames, Text.isDotted_append, hcomma, hopen, hclose, Bool.or_false,
        Bool.false_or, Bool.or_assoc]

/-- True of a type that brings a dot into names: a framework type under whatever name, no type at
all, which has a framework name too, or a path or a text with a dot. -/
def IsQualified : TypeRef → Prop
  | .void => True
  | .named path _ => IsKeyword path ∨ Text.isDotted path
  | .array _ => False
  | .unresolved text => Text.isDotted text

/-- True of a type in which no qualified type occurs. -/
def IsUnqualified (type : TypeRef) : Prop :=
  ∀ part, Occurs part type → ¬ part.IsQualified

/-- A named type is unqualified if its path is and all its type arguments are. -/
theorem isUnqualified_named_iff {path : String} {generics : List TypeRef} :
    (named path generics).IsUnqualified ↔
      (¬ IsKeyword path ∧ ¬ Text.isDotted path) ∧ ∀ generic ∈ generics, generic.IsUnqualified := by
  rw [← not_or]
  constructor
  · intro h
    exact ⟨h _ .here, fun generic hmem part hin ↦ h part (.generic hmem hin)⟩
  · rintro ⟨hpath, hgenerics⟩ part hin
    cases hin with
    | here => exact hpath
    | generic hmem hin => exact hgenerics _ hmem part hin

/-- An array is unqualified if its element is. -/
theorem isUnqualified_array_iff {element : TypeRef} :
    (array element).IsUnqualified ↔ element.IsUnqualified := by
  constructor
  · intro h part hin
    exact h part (.element hin)
  · intro h part hin
    cases hin with
    | here => exact not_false
    | element hin => exact h part hin

mutual

/-- The name of a type has no dot if no qualified type occurs in it. -/
theorem isDotted_fullName_eq_false_iff : ∀ type : TypeRef,
    Text.isDotted type.fullName = false ↔ type.IsUnqualified
  | .void => iff_of_false (by decide) fun h ↦ h _ .here trivial
  | .named path generics => by
      rw [isDotted_fullName_named, Bool.or_eq_false_iff, isDotted_fullNames_eq_false_iff generics,
        isUnqualified_named_iff, ← not_or, ← isDotted_expandAlias_iff, Bool.not_eq_true]
  | .array element => by
      have hbrackets : Text.isDotted "[]" = false := by decide
      rw [fullName, Text.isDotted_append, hbrackets, Bool.or_false,
        isDotted_fullName_eq_false_iff element, isUnqualified_array_iff]
  | .unresolved text => by
      rw [fullName, ← Bool.not_eq_true]
      constructor
      · intro hplain part hin
        cases hin with
        | here => exact hplain
      · intro h
        exact h _ .here

/-- The names of type arguments have no dot if no qualified type occurs in them. -/
theorem isDotted_fullNames_eq_false_iff : ∀ types : List TypeRef,
    Text.isDotted (fullNames types) = false ↔ ∀ type ∈ types, type.IsUnqualified
  | [] => iff_of_true (by decide) fun _ hmem ↦ nomatch hmem
  | type :: types => by
      have hcomma : Text.isDotted ", " = false := by decide
      rw [fullNames, Text.isDotted_append, Text.isDotted_append, hcomma, Bool.false_or,
        Bool.or_eq_false_iff, isDotted_fullName_eq_false_iff type,
        isDotted_fullNames_eq_false_iff types, List.forall_mem_cons]

end

end Dots

mutual

/-- True of types that are the same up to named types, at whatever depth, in which a keyword and its
framework name change places. -/
inductive SameUpToAliases : TypeRef → TypeRef → Prop where
  | void : SameUpToAliases .void .void
  | named {path other : String} {generics others : List TypeRef} (hpath : SamePath path other)
      (hgenerics : AllSameUpToAliases generics others) :
      SameUpToAliases (.named path generics) (.named other others)
  | array {element other : TypeRef} (h : SameUpToAliases element other) :
      SameUpToAliases (.array element) (.array other)
  | unresolved (text : String) : SameUpToAliases (.unresolved text) (.unresolved text)

/-- True of types that are the same up to aliases, one by one. -/
inductive AllSameUpToAliases : List TypeRef → List TypeRef → Prop where
  | nil : AllSameUpToAliases [] []
  | cons {type other : TypeRef} {types others : List TypeRef} (hfirst : SameUpToAliases type other)
      (hrest : AllSameUpToAliases types others) :
      AllSameUpToAliases (type :: types) (other :: others)

end

mutual

/-- Types that are the same up to aliases have the same name. -/
theorem SameUpToAliases.fullName_eq : ∀ {type other : TypeRef}, SameUpToAliases type other →
    type.fullName = other.fullName
  | _, _, .void => rfl
  | _, _, .named hpath .nil => hpath.expandAlias_eq
  | _, _, .named hpath (.cons hfirst hrest) => by
      rw [fullName, fullName, hpath.expandAlias_eq, hfirst.fullName_eq, hrest.fullNames_eq]
  | _, _, .array h => by rw [fullName, fullName, h.fullName_eq]
  | _, _, .unresolved _ => rfl

/-- Type arguments that are the same up to aliases have the same names. -/
theorem AllSameUpToAliases.fullNames_eq : ∀ {types others : List TypeRef},
    AllSameUpToAliases types others → fullNames types = fullNames others
  | _, _, .nil => rfl
  | _, _, .cons hfirst hrest => by
      rw [fullNames, fullNames, hfirst.fullName_eq, hrest.fullNames_eq]

end

mutual

/-- Types that are the same up to aliases have the same first unresolved type. -/
theorem SameUpToAliases.firstUnresolved?_eq : ∀ {type other : TypeRef},
    SameUpToAliases type other → type.firstUnresolved? = other.firstUnresolved?
  | _, _, .void => rfl
  | _, _, .named _ hgenerics => hgenerics.firstUnresolvedOf?_eq
  | _, _, .array h => h.firstUnresolved?_eq
  | _, _, .unresolved _ => rfl

/-- Type arguments that are the same up to aliases have the same first unresolved type. -/
theorem AllSameUpToAliases.firstUnresolvedOf?_eq : ∀ {types others : List TypeRef},
    AllSameUpToAliases types others → firstUnresolvedOf? types = firstUnresolvedOf? others
  | _, _, .nil => rfl
  | _, _, .cons hfirst hrest => by
      rw [firstUnresolvedOf?, firstUnresolvedOf?, hfirst.firstUnresolved?_eq,
        hrest.firstUnresolvedOf?_eq]

end

namespace SameUpToAliases

variable {type other : TypeRef} (h : SameUpToAliases type other)

include h

/-- A keyword refers to no type if its framework name does. -/
theorem isVoid_eq : type.isVoid = other.isVoid := by
  cases h with
  | void | array | unresolved => rfl
  | named hpath => rw [isVoid, isVoid, hpath.expandAlias_eq]

/-- Where the name of a type has no dot, other aliases leave its path as it is. -/
theorem simpleName?_eq (hplain : ¬ Text.isDotted type.fullName) :
    type.simpleName? = other.simpleName? := by
  cases h with
  | void | array | unresolved => rfl
  | named hpath =>
      rw [isDotted_fullName_named, Bool.or_eq_true, not_or] at hplain
      rw [simpleName?, simpleName?, hpath.eq_of_not_isDotted hplain.1]

/-- Other aliases make no type an HTTP response. -/
theorem isHttpResponse_eq (conventions : Conventions) :
    conventions.isHttpResponse type = conventions.isHttpResponse other := by
  rw [Conventions.isHttpResponse, Conventions.isHttpResponse, ← h.fullName_eq]
  by_cases hdotted : Text.isDotted type.fullName
  · simp only [hdotted, Bool.not_true, Bool.false_and]
  · rw [h.simpleName?_eq hdotted]

end SameUpToAliases

end TypeRef

end FunctionBindings
