import FunctionBindings.Proofs.Scan.Comparison
import Mathlib.Data.List.Basic

/-!
# Types that references point to

An index is made by one walk over the declared types that fills two tables, and keeps less of full
names than of simple ones: the first position of each full name, but all positions of each simple
name (`get?_byFullName_ofTypes`, `positions_bySimpleName_ofTypes`). A lookup therefore resolves a
repeated full name to its first type and a repeated simple name to none. Main statement:
`lookup_of_names`.
-/

namespace FunctionBindings

/-- True of the first position at which a list holds a name. -/
def IsFirstPosition (names : List String) (name : String) (position : Nat) : Prop :=
  names[position]? = some name ∧ ∀ earlier < position, names[earlier]? ≠ some name

/-- True of the only position at which a list holds a name. -/
def IsOnlyPosition (names : List String) (name : String) (position : Nat) : Prop :=
  ∀ other, names[other]? = some name ↔ other = position

/-- A position is one of a name's if the name stands there. -/
theorem mem_idxsOf_iff {names : List String} {name : String} {position : Nat} :
    position ∈ names.idxsOf name ↔ names[position]? = some name := by
  rw [List.mem_idxsOf_iff_exists_getElem_pos, List.getElem?_eq_some_iff]
  simp only [beq_iff_eq]

/-- The positions of a name begin with its first one. -/
theorem head?_idxsOf_eq_some_iff {names : List String} {name : String} {position : Nat} :
    (names.idxsOf name).head? = some position ↔ IsFirstPosition names name position := by
  have hsorted : (names.idxsOf name).Pairwise (· < ·) := List.pairwise_idxsOf
  constructor
  · intro hhead
    obtain ⟨later, hpositions⟩ := List.head?_eq_some_iff.1 hhead
    rw [hpositions, List.pairwise_cons] at hsorted
    refine ⟨mem_idxsOf_iff.1 (hpositions ▸ List.mem_cons_self), fun earlier hearlier hname ↦ ?_⟩
    have hmem := mem_idxsOf_iff.2 hname
    rw [hpositions] at hmem
    obtain rfl | hlater := List.mem_cons.1 hmem
    · omega
    · have hbehind := hsorted.1 earlier hlater
      omega
  · rintro ⟨hname, hfirst⟩
    have hmem := mem_idxsOf_iff.2 hname
    cases hpositions : names.idxsOf name with
    | nil =>
        rw [hpositions] at hmem
        cases hmem
    | cons head later =>
        rw [hpositions] at hmem hsorted
        have hhead := mem_idxsOf_iff.1 (hpositions ▸ List.mem_cons_self (l := later))
        obtain rfl | hlater := List.mem_cons.1 hmem
        · rfl
        · exact absurd hhead (hfirst head ((List.pairwise_cons.1 hsorted).1 position hlater))

/-- A name has just one position if that is the only one. -/
theorem idxsOf_eq_singleton_iff {names : List String} {name : String} {position : Nat} :
    names.idxsOf name = [position] ↔ IsOnlyPosition names name position := by
  have hnodup : (names.idxsOf name).Nodup := List.nodup_idxsOf
  constructor
  · intro hpositions other
    rw [← mem_idxsOf_iff, hpositions, List.mem_singleton]
  · intro honly
    have hmem (other : Nat) : other ∈ names.idxsOf name ↔ other = position :=
      mem_idxsOf_iff.trans (honly other)
    exact List.perm_singleton.1 ((List.perm_ext_iff_of_nodup hnodup (List.nodup_singleton _)).2
      fun other ↦ (hmem other).trans List.mem_singleton.symm)

/-- A name without any position is not among the names. -/
theorem head?_idxsOf_eq_none_iff {names : List String} {name : String} :
    (names.idxsOf name).head? = none ↔ name ∉ names := by
  rw [List.head?_eq_none_iff, List.idxsOf_eq_nil_iff]
  constructor
  · intro h hmem
    simpa using h name hmem
  · intro h other hother
    rw [beq_eq_false_iff_ne]
    rintro rfl
    exact h hother

namespace TypeIndex

/-- A full name that is entered has the position of the type unless it has one already. -/
theorem get?_byFullName_enter (index : TypeIndex) (type : DeclaredType) (position : Nat)
    (name : String) :
    (index.enter (type, position)).byFullName.get? name =
      (index.byFullName.get? name).or
        (if type.fullName = name then some position else none) := by
  cases hfound : index.byFullName.get? type.fullName with
  | none =>
      simp only [enter, Table.contains, hfound, Option.isSome_none, Bool.false_eq_true, if_false,
        Table.get?_insert]
      by_cases hname : type.fullName = name
      · subst hname
        simp [hfound]
      · simp [hname]
  | some found =>
      simp only [enter, Table.contains, hfound, Option.isSome_some, if_true]
      by_cases hname : type.fullName = name
      · subst hname
        simp [hfound]
      · simp [hname]

/-- A simple name that is entered has the position of the type behind those that it has already. -/
theorem positions_bySimpleName_enter (index : TypeIndex) (type : DeclaredType) (position : Nat)
    (name : String) :
    ((index.enter (type, position)).bySimpleName.get? name).getD [] =
      (index.bySimpleName.get? name).getD [] ++ if type.name = name then [position] else [] := by
  simp only [enter, Table.get?_insert]
  by_cases hname : type.name = name
  · subst hname
    simp
  · simp [hname]

/-- The walk over the types leaves each full name at its first position. -/
theorem get?_byFullName_foldl_enter (types : List DeclaredType) (start : Nat) (index : TypeIndex)
    (name : String) :
    ((types.zipIdx start).foldl enter index).byFullName.get? name =
      (index.byFullName.get? name).or ((types.map (·.fullName)).idxsOf name start).head? := by
  induction types generalizing start index with
  | nil => simp
  | cons type types ih =>
      rw [List.zipIdx_cons, List.foldl_cons, ih, get?_byFullName_enter, Option.or_assoc,
        List.map_cons, List.idxsOf_cons]
      by_cases hname : type.fullName = name <;> simp [hname]

/-- The walk over the types collects all positions of each simple name. -/
theorem positions_bySimpleName_foldl_enter (types : List DeclaredType) (start : Nat)
    (index : TypeIndex) (name : String) :
    (((types.zipIdx start).foldl enter index).bySimpleName.get? name).getD [] =
      (index.bySimpleName.get? name).getD [] ++ (types.map (·.name)).idxsOf name start := by
  induction types generalizing start index with
  | nil => simp
  | cons type types ih =>
      rw [List.zipIdx_cons, List.foldl_cons, ih, positions_bySimpleName_enter, List.append_assoc,
        List.map_cons, List.idxsOf_cons]
      by_cases hname : type.name = name <;> simp [hname]

/-- The first table has the first position of each full name. -/
theorem get?_byFullName_ofTypes (types : List DeclaredType) (name : String) :
    (ofTypes types).byFullName.get? name = ((types.map (·.fullName)).idxsOf name).head? := by
  rw [ofTypes, get?_byFullName_foldl_enter]
  rfl

/-- The second table has all positions of each simple name. -/
theorem positions_bySimpleName_ofTypes (types : List DeclaredType) (name : String) :
    ((ofTypes types).bySimpleName.get? name).getD [] = (types.map (·.name)).idxsOf name := by
  rw [ofTypes, positions_bySimpleName_foldl_enter]
  rfl

/-- The tables are asked in turn: a full name decides, and a simple name only without a dot. -/
theorem position?_named_eq_some_iff {index : TypeIndex} {path : String} {generics : List TypeRef}
    {position : Nat} :
    index.position? (.named path generics) = some position ↔
      index.byFullName.get? path = some position ∨
        index.byFullName.get? path = none ∧ '.' ∉ path.toList ∧
          (index.bySimpleName.get? path).getD [] = [position] := by
  have hdotted : Text.isDotted path = true ↔ '.' ∈ path.toList := List.contains_iff_mem
  rw [position?]
  cases hfull : index.byFullName.get? path with
  | some found => simp
  | none =>
      by_cases hdot : Text.isDotted path
      · simp [hdot, hdotted.1 hdot]
      · rw [if_neg hdot]
        have hplain : '.' ∉ path.toList := fun hmem ↦ hdot (hdotted.2 hmem)
        rcases index.bySimpleName.get? path with _ | _ | ⟨first, _ | ⟨second, later⟩⟩ <;>
          simp [hplain]

/-- Where an index finds a reference: a named type at the first position of its path among the full
names, or else at the only position among the simple names, if the path has no dot. -/
theorem position?_ofTypes_eq_some_iff {types : List DeclaredType} {type : TypeRef}
    {position : Nat} :
    (ofTypes types).position? type = some position ↔
      ∃ path generics, type = .named path generics ∧
        (IsFirstPosition (types.map (·.fullName)) path position ∨
          path ∉ types.map (·.fullName) ∧ '.' ∉ path.toList ∧
            IsOnlyPosition (types.map (·.name)) path position) := by
  cases type with
  | named path generics =>
      rw [position?_named_eq_some_iff, get?_byFullName_ofTypes, positions_bySimpleName_ofTypes,
        head?_idxsOf_eq_some_iff, head?_idxsOf_eq_none_iff, idxsOf_eq_singleton_iff]
      constructor
      · intro h
        exact ⟨path, generics, rfl, h⟩
      · rintro ⟨_, _, ⟨⟩, h⟩
        exact h
  | void | array | unresolved => simp [position?]

/-- What stands at a position that an index finds is a declared type with the path as its full name,
or with the path as a simple name that no other type has. -/
theorem exists_of_position?_ofTypes {types : List DeclaredType} {path : String}
    {generics : List TypeRef} {position : Nat}
    (h : (ofTypes types).position? (.named path generics) = some position) :
    ∃ found, types[position]? = some found ∧
      (found.fullName = path ∨
        path ∉ types.map (·.fullName) ∧ '.' ∉ path.toList ∧ found.name = path ∧
          (types.map (·.name)).count path = 1) := by
  obtain ⟨_, _, ⟨⟩, hfirst | ⟨hnone, hplain, honly⟩⟩ := position?_ofTypes_eq_some_iff.1 h
  · obtain ⟨found, hfound, hname⟩ := Option.map_eq_some_iff.1 (List.getElem?_map ▸ hfirst.1)
    exact ⟨found, hfound, .inl hname⟩
  · have hnamed : (types.map (·.name))[position]? = some path := (honly position).2 rfl
    obtain ⟨found, hfound, hname⟩ := Option.map_eq_some_iff.1 (List.getElem?_map ▸ hnamed)
    have hcount : (types.map (·.name)).count path = 1 := by
      rw [← List.length_idxsOf (s := 0), idxsOf_eq_singleton_iff.2 honly, List.length_singleton]
    exact ⟨found, hfound, .inr ⟨hnone, hplain, hname, hcount⟩⟩

end TypeIndex

/-- The full name of a type begins with its namespace if that is there and not empty. -/
theorem DeclaredType.fullName_eq_elim (type : DeclaredType) :
    type.fullName = type.namespaceName.elim type.name fun namespaceName ↦
      if namespaceName = "" then type.name else namespaceName ++ "." ++ type.name := by
  unfold fullName
  cases type.namespaceName <;> rfl

/-- A lookup finds the declared type at a position if the reference is a named type, whatever its
type arguments, and the position is the first at which its path is the full name, or its path is no
full name and has no dot, and the position is the only one at which it is the simple name. So a path
with a dot finds a type of that full name or nothing, and a path that is not resolved as a full name
is the simple name of no other type. A full name is the name behind the namespace, if there is one
that is not empty. -/
theorem lookup_of_names (types : List DeclaredType) (type : TypeRef) :
    let index := TypeIndex.ofTypes types
    let fullName (declared : DeclaredType) : String :=
      declared.namespaceName.elim declared.name fun namespaceName ↦
        if namespaceName = "" then declared.name else namespaceName ++ "." ++ declared.name
    (∀ position, index.position? type = some position ↔
      ∃ path generics, type = .named path generics ∧
        (IsFirstPosition (types.map fullName) path position ∨
          path ∉ types.map fullName ∧ '.' ∉ path.toList ∧
            IsOnlyPosition (types.map (·.name)) path position)) ∧
    (∀ found, index.lookup? type = some found ↔
      ∃ position, index.position? type = some position ∧ types[position]? = some found) ∧
    (index.lookup? type = none ↔ index.position? type = none) ∧
    ∀ path generics found, type = .named path generics → index.lookup? type = some found →
      ('.' ∈ path.toList → fullName found = path) ∧
      (fullName found ≠ path →
        path ∉ types.map fullName ∧ found.name = path ∧
          (types.map (·.name)).count path = 1) := by
  intro index fullName
  have hfullName : fullName = DeclaredType.fullName :=
    funext fun declared ↦ declared.fullName_eq_elim.symm
  have hlookup (found : DeclaredType) : index.lookup? type = some found ↔
      ∃ position, index.position? type = some position ∧ types[position]? = some found := by
    rw [TypeIndex.lookup?, Option.bind_eq_some_iff, TypeIndex.types_ofTypes]
  rw [hfullName]
  refine ⟨fun position ↦ TypeIndex.position?_ofTypes_eq_some_iff, hlookup, ?_, ?_⟩
  · rw [TypeIndex.lookup?, TypeIndex.types_ofTypes]
    cases hposition : index.position? type with
    | none => simp
    | some position =>
        obtain ⟨path, generics, rfl, -⟩ := TypeIndex.position?_ofTypes_eq_some_iff.1 hposition
        obtain ⟨found, hfound, -⟩ := TypeIndex.exists_of_position?_ofTypes hposition
        simp [hfound]
  · rintro path generics found rfl hfound
    obtain ⟨position, hposition, hat⟩ := (hlookup found).1 hfound
    obtain ⟨_, hsame, hnames⟩ := TypeIndex.exists_of_position?_ofTypes hposition
    obtain rfl := Option.some.inj (hat.symm.trans hsame)
    obtain hfull | ⟨hnone, hplain, hname, hcount⟩ := hnames
    · exact ⟨fun _ ↦ hfull, fun hne ↦ absurd hfull hne⟩
    · exact ⟨fun hdot ↦ absurd hdot hplain, fun _ ↦ ⟨hnone, hname, hcount⟩⟩

end FunctionBindings
