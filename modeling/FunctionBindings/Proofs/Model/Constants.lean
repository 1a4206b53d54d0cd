import FunctionBindings.Model.Constant.Json
import FunctionBindings.Proofs.Json.TypedReading

/-!
# Reading constants back

A constant is written with its kind in front of its value, and the value alone does not tell its
kind: a scalar, the name of a member and that of a type may all be strings. Among the scalars only
the doubles are not always written exactly. So a constant without doubles is read back from its
object, at every depth: `Constant.read_toDoc_toJson`.
-/

namespace FunctionBindings

open Json (Source)

namespace Constant

mutual

/-- The literals in a constant, at every depth. -/
def scalars : Constant → List Scalar
  | .scalar value => [value]
  | .array items => scalarsOf items
  | _ => []
termination_by structural constant => constant

/-- The literals in constants. -/
def scalarsOf : List Constant → List Scalar
  | [] => []
  | item :: items => scalars item ++ scalarsOf items
termination_by structural items => items

end

end Constant

/-- A scalar that is no double has no number that is not written exactly. -/
theorem Scalar.hasExactNumbers_toJson (value : Scalar) (h : ∀ x, value ≠ .float x) :
    value.toJson.HasExactNumbers := by
  cases value with
  | float x => exact absurd rfl (h x)
  | int n =>
      have hlow := n.le_toInt
      have hhigh := n.toInt_lt
      show -Decimal.signedLimit ≤ n.toInt ∧ n.toInt < Decimal.unsignedLimit
      unfold Decimal.signedLimit Decimal.unsignedLimit
      omega
  | _ => trivial

/-- A scalar that is no double is read back. -/
theorem Scalar.read_toDoc_toJson (value : Scalar) (h : ∀ x, value ≠ .float x) :
    read (Json.toDoc value.toJson) = .ok value := by
  cases value with
  | float x => exact absurd rfl (h x)
  | int n =>
      have hlow := n.le_toInt
      have hhigh := n.toInt_lt
      have hsigned : Decimal.isSigned n.toInt := by
        unfold Decimal.isSigned Decimal.signedLimit
        simp
        omega
      simp [toJson, Json.int, Json.toDoc, read, Json.Doc.value, ofJson?, hsigned, bind, Except.bind,
        pure, Except.pure]
  | _ => rfl

namespace Constant

/-- A constant whose kind stands in front of its value is what the value is as one of that kind. -/
theorem read_object {source : Source} {name : String} (kind : Kind) (doc : Json.Doc)
    (h : Json.readVariant Kind.variants source (.string name) = .ok kind) :
    read source (.object false [(.named "kind", .string name), (.named "value", doc)] .closed) =
      readValue source kind doc := by
  simp only [read, readMembers, Json.refuseDeep, Json.Key.name, h, Except.map, bind, Except.bind]
  cases readValue source kind doc <;> rfl

/-- The document of a scalar is no array. -/
theorem readValue_scalar {source : Source} (value : Scalar) :
    readValue source .scalar (Json.toDoc value.toJson) =
      (Scalar.read (Json.toDoc value.toJson)).map .scalar := by
  cases value <;> rfl

mutual

/-- A constant without doubles is written exactly. -/
theorem hasExactNumbers_toJson : ∀ constant : Constant, (∀ x, .float x ∉ constant.scalars) →
    constant.toJson.HasExactNumbers
  | .scalar value, h => by
      have hvalue := Scalar.hasExactNumbers_toJson value (by
        rintro x rfl
        exact h x (by simp [scalars]))
      exact ⟨trivial, hvalue, trivial⟩
  | .member _, _ => by simp [toJson, Json.HasExactNumbers, Json.MembersHaveExactNumbers]
  | .typeOf _, _ => by simp [toJson, Json.HasExactNumbers, Json.MembersHaveExactNumbers]
  | .array items, h => by
      have hitems := haveExactNumbers_toJsons items h
      exact ⟨trivial, hitems, trivial⟩

/-- Constants without doubles are written exactly. -/
theorem haveExactNumbers_toJsons : ∀ items : List Constant, (∀ x, .float x ∉ scalarsOf items) →
    Json.HaveExactNumbers (toJsons items)
  | [], _ => trivial
  | item :: items, h => by
      have hitem := hasExactNumbers_toJson item fun x hx ↦ h x (by simp [scalarsOf, hx])
      have hitems := haveExactNumbers_toJsons items fun x hx ↦ h x (by simp [scalarsOf, hx])
      exact ⟨hitem, hitems⟩

end

mutual

/-- A constant without doubles is read back from its object. -/
theorem read_toDoc_toJson (source : Source) : ∀ constant : Constant,
    (∀ x, .float x ∉ constant.scalars) → read source (Json.toDoc constant.toJson) = .ok constant
  | .scalar value, h => by
      have hvalue := Scalar.read_toDoc_toJson value (by
        rintro x rfl
        exact h x (by simp [scalars]))
      rw [toJson]
      refine (read_object .scalar _ rfl).trans ?_
      rw [readValue_scalar, hvalue]
      rfl
  | .member name, _ => (read_object .member _ rfl).trans rfl
  | .typeOf name, _ => (read_object .typeOf _ rfl).trans rfl
  | .array items, h => by
      have hitems := readAll_toDocs_toJsons source items h
      rw [toJson]
      refine (read_object .array _ rfl).trans ?_
      simp [Json.toDoc, readValue, Json.refuseDeep, hitems, Json.Ending.ofItems, bind, Except.bind,
        pure, Except.pure]

/-- Constants without doubles are read back from their array. -/
theorem readAll_toDocs_toJsons (source : Source) : ∀ items : List Constant,
    (∀ x, .float x ∉ scalarsOf items) → readAll source (Json.toDocs (toJsons items)) = .ok items
  | [], _ => rfl
  | item :: items, h => by
      have hitem := read_toDoc_toJson source item fun x hx ↦ h x (by simp [scalarsOf, hx])
      have hitems := readAll_toDocs_toJsons source items fun x hx ↦ h x (by simp [scalarsOf, hx])
      simp [toJsons, Json.toDocs, readAll, hitem, hitems, bind, Except.bind, pure, Except.pure]

end

/-- A constant without doubles is read back. -/
theorem readsBack {constant : Constant} (h : ∀ x, .float x ∉ constant.scalars) :
    Json.ReadsBack reader constant.toJson constant :=
  ⟨hasExactNumbers_toJson constant h, fun source ↦ read_toDoc_toJson source constant h⟩

/-- The JSON forms of constants are those of the single ones. -/
theorem toJsons_eq_map (items : List Constant) : toJsons items = items.map toJson := by
  induction items with
  | nil => rfl
  | cons item items ih => rw [toJsons, ih, List.map_cons]

end Constant

end FunctionBindings
