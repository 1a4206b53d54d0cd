import FunctionBindings.Generation.Report
import FunctionBindings.Proofs.Model.TypeNames

/-!
# Generic HTTP responses

A type that does not have the full name of the HTTP response type is still one by its last segment,
but only if nothing in its full name is qualified, and that name has the type arguments in it, with
their keywords expanded (`Conventions.isHttpResponse_named_iff`). So type arguments have a say in
what is a response, although the segment is that of the path alone: `isHttpResponse_named_generics`
says which of them make no difference, and `exists_unrecognized_reply` that others do.
-/

namespace FunctionBindings

/-- A named type that does not have the full name of the response type is a response if its path is
the last segment of that name and no keyword, and none of its type arguments is qualified. -/
theorem Conventions.isHttpResponse_named_iff {conventions : Conventions} {path : String}
    {generics : List TypeRef}
    (h : (TypeRef.named path generics).fullName ≠ conventions.httpResponseType) :
    conventions.isHttpResponse (.named path generics) ↔
      path = Text.lastSegment conventions.httpResponseType ∧ ¬ TypeRef.IsKeyword path ∧
        ∀ generic ∈ generics, generic.IsUnqualified := by
  have hrecognized : conventions.isHttpResponse (.named path generics) ↔
      (TypeRef.named path generics).IsUnqualified ∧
        Text.lastSegment path = Text.lastSegment conventions.httpResponseType := by
    rw [isHttpResponse, Bool.or_eq_true, Bool.and_eq_true, beq_iff_eq, beq_iff_eq,
      Bool.not_eq_true', TypeRef.isDotted_fullName_eq_false_iff, TypeRef.simpleName?, Option.some_inj]
    exact or_iff_right h
  rw [hrecognized, TypeRef.isUnqualified_named_iff]
  constructor
  · rintro ⟨⟨⟨hkeyword, hplain⟩, hgenerics⟩, hsegment⟩
    rw [Text.lastSegment_of_not_isDotted hplain] at hsegment
    exact ⟨hsegment, hkeyword, hgenerics⟩
  · rintro ⟨hpath, hkeyword, hgenerics⟩
    have hplain : ¬ Text.isDotted path := hpath ▸ Text.not_isDotted_lastSegment _
    exact ⟨⟨⟨hkeyword, hplain⟩, hgenerics⟩, (Text.lastSegment_of_not_isDotted hplain).trans hpath⟩

/-- Of types with one path, neither of which has the full name of the response type, one is a
response just if its path is the last segment of that name and no keyword, and none of its type
arguments is qualified. So both are responses or neither is, unless the path is that segment and the
type arguments of just one of them are all unqualified; and keywords in type arguments can always be
replaced by their framework names. -/
theorem isHttpResponse_named_generics {conventions : Conventions} {path : String}
    {generics others : List TypeRef}
    (hfull : (TypeRef.named path generics).fullName ≠ conventions.httpResponseType)
    (hother : (TypeRef.named path others).fullName ≠ conventions.httpResponseType) :
    let named := path = Text.lastSegment conventions.httpResponseType ∧ ¬ TypeRef.IsKeyword path
    (conventions.isHttpResponse (.named path generics) ↔
      named ∧ ∀ generic ∈ generics, generic.IsUnqualified) ∧
    (conventions.isHttpResponse (.named path generics) =
        conventions.isHttpResponse (.named path others) ↔
      (named → ((∀ generic ∈ generics, generic.IsUnqualified) ↔
        ∀ generic ∈ others, generic.IsUnqualified))) ∧
    (TypeRef.AllSameUpToAliases generics others →
      conventions.isHttpResponse (.named path generics) =
        conventions.isHttpResponse (.named path others)) := by
  intro named
  have hgenerics := Conventions.isHttpResponse_named_iff hfull
  have hothers := Conventions.isHttpResponse_named_iff hother
  rw [← and_assoc] at hgenerics hothers
  refine ⟨hgenerics, ?_, fun hsame ↦ ?_⟩
  · rw [Bool.eq_iff_iff, hgenerics, hothers]
    exact and_congr_right_iff
  · exact TypeRef.SameUpToAliases.isHttpResponse_eq (.named (.inl rfl) hsame) conventions

namespace TypedReply

/-- A response with contents of a type, which is referred to without its namespace. -/
def reply (content : TypeRef) : TypeRef := .named "HttpResponseData" [content]

/-- A type without a namespace. -/
def order : TypeRef := .named "Order" []

/-- A keyword. -/
def count : TypeRef := .named "int" []

/-- A function that returns a response. -/
def method (name : String) (content : TypeRef) (span : Span) : Method :=
  ((Method.of name (reply content)).annotated
    ((Attribute.named "Function").withArgument (.string name))).withSpan span

/-- A program of two functions, which differ in the contents of their responses. -/
def program : Program :=
  (Program.of "Shop").withType
    ((((DeclaredType.of "Orders").inFile "Orders.cs").withMethod
      (method "Find" order ⟨10, 40⟩)).withMethod (method "Count" count ⟨50, 80⟩))

/-- A response with a keyword as type argument is not recognized, and its function has no binding
for it; with a plain name as type argument it is. -/
theorem exists_unrecognized_reply :
    [order] ≠ [] ∧ [count] ≠ [] ∧
    (reply order).fullName ≠ Conventions.standard.httpResponseType ∧
    (reply count).fullName ≠ Conventions.standard.httpResponseType ∧
    Conventions.standard.isHttpResponse (reply order) = true ∧
    Conventions.standard.isHttpResponse (reply count) = false ∧
    (program.generate .standard).records.map (fun record ↦ (record.name, record.rawBindings)) =
      [("Find", [(Descriptor.httpResponse returnBindingName).text]), ("Count", [])] :=
  ⟨List.cons_ne_nil _ _, List.cons_ne_nil _ _, by decide, by decide, rfl, rfl, rfl⟩

/-- A response is recognized with any plain names in its type arguments. -/
theorem isHttpResponse_named_generics_orders :
    (reply order).fullName ≠ Conventions.standard.httpResponseType ∧
    (reply (.named "List" [.array order])).fullName ≠ Conventions.standard.httpResponseType ∧
    Conventions.standard.isHttpResponse (reply order) = true ∧
    Conventions.standard.isHttpResponse (reply order) =
      Conventions.standard.isHttpResponse (reply (.named "List" [.array order])) := by
  have horder : (reply order).fullName ≠ Conventions.standard.httpResponseType := by decide
  have horders : (reply (.named "List" [.array order])).fullName ≠
    Conventions.standard.httpResponseType := by decide
  have hplain : ∀ generic ∈ [order], generic.IsUnqualified :=
    (TypeRef.isDotted_fullNames_eq_false_iff [order]).1 rfl
  have hplains : ∀ generic ∈ [TypeRef.named "List" [.array order]], generic.IsUnqualified :=
    (TypeRef.isDotted_fullNames_eq_false_iff [.named "List" [.array order]]).1 rfl
  have hnamed : "HttpResponseData" = Text.lastSegment Conventions.standard.httpResponseType ∧
    ¬ TypeRef.IsKeyword "HttpResponseData" := by decide
  obtain ⟨hresponse, hsame, -⟩ := isHttpResponse_named_generics horder horders
  exact ⟨horder, horders, hresponse.2 ⟨hnamed, hplain⟩,
    hsame.2 fun _ ↦ iff_of_true hplain hplains⟩

end TypedReply

end FunctionBindings
