import FunctionBindings.Model.Program

/-!
# Lookup of declared types

An index finds the declared type that a reference points to. A path that is the full name of a
declared type finds the first such type; otherwise a path without a dot finds the type with that
simple name, if there is just one.
-/

namespace FunctionBindings

/-- The declared types of a program with the positions of their names. -/
structure TypeIndex where
  types : List DeclaredType
  /-- The first position of each full name. -/
  byFullName : Table String Nat
  /-- All positions of each simple name. -/
  bySimpleName : Table String (List Nat)

namespace TypeIndex

/-- Enter a type at a position. A full name keeps its first position. -/
def enter (index : TypeIndex) (entry : DeclaredType × Nat) : TypeIndex :=
  let (type, position) := entry
  { index with
    byFullName :=
      if index.byFullName.contains type.fullName then index.byFullName
      else index.byFullName.insert type.fullName position
    bySimpleName :=
      index.bySimpleName.insert type.name
        ((index.bySimpleName.get? type.name).getD [] ++ [position]) }

/-- The index of declared types. -/
def ofTypes (types : List DeclaredType) : TypeIndex :=
  types.zipIdx.foldl enter ⟨types, ∅, ∅⟩

/-- The position of the declared type that a reference points to. -/
def position? (index : TypeIndex) : TypeRef → Option Nat
  | .named path _ =>
      match index.byFullName.get? path with
      | some position => some position
      | none =>
          if Text.isDotted path then none
          else match index.bySimpleName.get? path with
          | some [position] => some position
          | _ => none
  | _ => none

/-- The declared type that a reference points to. -/
def lookup? (index : TypeIndex) (type : TypeRef) : Option DeclaredType :=
  (index.position? type).bind (index.types[·]?)

/-- The number of declared types. -/
def size (index : TypeIndex) : Nat := index.types.length

/-- True of the index of no types. -/
def isEmpty (index : TypeIndex) : Bool := index.types.isEmpty

end TypeIndex

end FunctionBindings
