import FunctionBindings.Proofs.Generation.Comparison
import FunctionBindings.Proofs.Generation.LookAlikes
import FunctionBindings.Proofs.Scan.TypeSpelling

/-!
# Reports of programs with other aliases

Whether a signature has a keyword or its framework name has no part in a report, at whatever depth
of type arguments and array elements it stands. The hints and the void type go by full names, in
which both are the same; HTTP responses go by the last segment of a path only where the full name
has no dot, and that of an alias has one; declared types go by the path as it is written, but none
has the name of an alias. Main statement: `generate_sameUpToAliases`.
-/

namespace FunctionBindings

/-- Types that are the same up to aliases have the same hint. -/
theorem TypeRef.SameUpToAliases.dataType?_eq {type other : TypeRef} (h : type.SameUpToAliases other)
    (conventions : Conventions) : conventions.dataType? type = conventions.dataType? other := by
  have hstring : conventions.isString type = conventions.isString other := by
    rw [Conventions.isString, Conventions.isString, h.fullName_eq]
  have hbinary : conventions.isBinary type = conventions.isBinary other := by
    rw [Conventions.isBinary, Conventions.isBinary, h.fullName_eq]
  rw [Conventions.dataType?, Conventions.dataType?, hstring, hbinary]

section

variable (catalog : Catalog) (conventions : Conventions)

/-- Parameters that are the same up to aliases look alike. -/
theorem Parameter.SameUpToAliases.looksLike {param other : Parameter}
    (h : param.SameUpToAliases other) : param.LooksLike catalog conventions other where
  name := h.name
  attributes := catalog.readsAlike_of_eq h.attributes
  hint := h.type.dataType?_eq conventions

/-- Members that are the same up to aliases look alike. -/
theorem Member.SameUpToAliases.looksLike {member other : Member}
    (h : member.SameUpToAliases other) : member.LooksLike catalog conventions other where
  name := h.name
  attributes := catalog.readsAlike_of_eq h.attributes
  span := h.span
  response := h.type.isHttpResponse_eq conventions
  hint := h.type.dataType?_eq conventions

/-- Functions that are the same up to aliases look alike. -/
theorem ScannedFunction.SameUpToAliases.looksLike {function other : ScannedFunction}
    (h : function.SameUpToAliases other) : function.LooksLike catalog conventions other where
  name := h.name
  entryPoint := h.entryPoint
  owner := h.owner.name
  file := h.owner.file
  methodName := h.method.name
  methodAttributes := catalog.readsAlike_of_eq h.method.attributes
  methodSpan := h.method.span
  params := h.method.params.imp fun _ _ hparam ↦ hparam.looksLike catalog conventions
  returnVoid := h.method.returnType.isVoid_eq
  returnResponse := h.method.returnType.isHttpResponse_eq conventions
  members := by
    refine forall₂_returnMembers_of (fun type type' htype ↦ ?_) h.returnDeclaration
    exact htype.members.imp fun _ _ hmember ↦ hmember.looksLike catalog conventions

end

/-- A report stays the same, order and all, if any keywords and framework names change places in the
types of parameters, of members and of return values, as long as no declared type has the name of an
alias. -/
theorem generate_sameUpToAliases {program other : Program} (h : program.SameUpToAliases other)
    (hdeclared : program.DeclaresNoAlias) (options : GeneratorOptions) :
    other.generate options = program.generate options := by
  rw [program.generate_eq_ofScanOutcomes, other.generate_eq_ofScanOutcomes]
  refine (ofScanOutcomes_eq aliasComparison (h.forall₂_scanOutcomes hdeclared)
    (fun _ _ herror ↦ herror) fun function function' hfunction ↦ ?_).symm
  have hlooks := ScannedFunction.SameUpToAliases.looksLike (.forProgram other) options.conventions
    hfunction
  rw [Program.contributionOf, Program.contributionOf, Catalog.forProgram_congr h.attributeTypes,
    h.assembly, hlooks.contribution_eq]

namespace OrderAliases

/-- A type with a member for a queue, which is a list of pairs of a text and of bytes. -/
def result (text byte : String) : DeclaredType :=
  let pair : TypeRef := .named "Pair" [.named text [], .array (.named byte [])]
  (DeclaredType.of "Result").withMember
    ((Member.of "Items" (.array pair)).annotated
      ((Attribute.named "QueueOutput").withArgument (.string "copies")))

/-- A method that is triggered by bytes and returns the type with the member. -/
def copy (byte : String) : Method :=
  ((Method.of "Run" (.named "Result" [])).annotated
    ((Attribute.named "Function").withArgument (.string "Copy"))).withParam
      ((Parameter.of "message" (.named "System.ReadOnlyMemory" [.named byte []])).annotated
        ((Attribute.named "QueueTrigger").withArgument (.string "orders")))

/-- A method that is triggered by a request and returns nothing. -/
def ping (nothing : String) : Method :=
  ((Method.of "Ping" (.named nothing [])).annotated
    ((Attribute.named "Function").withArgument (.string "Ping"))).withParam
      ((Parameter.of "request" (.named "string" [])).annotated (.named "HttpTrigger"))

/-- The program of both methods. -/
def program (text byte nothing : String) : Program :=
  ((Program.of "Shop").withType (result text byte)).withType
    (((DeclaredType.of "Orders").withMethod (copy byte)).withMethod (ping nothing))

/-- Some keywords can be replaced by framework names, deep in type arguments and as a whole. -/
theorem generate_sameUpToAliases_orders :
    (program "string" "byte" "void").SameUpToAliases
        (program "System.String" "System.Byte" "System.Void") ∧
      (program "string" "byte" "void").DeclaresNoAlias ∧
      (program "System.String" "System.Byte" "System.Void").generate .standard =
        (program "string" "byte" "void").generate .standard := by
  have htext : TypeRef.SamePath "string" "System.String" := by decide
  have hbyte : TypeRef.SamePath "byte" "System.Byte" := by decide
  have hnothing : TypeRef.SamePath "void" "System.Void" := by decide
  have hresult : (result "string" "byte").SameUpToAliases (result "System.String" "System.Byte") :=
    ⟨rfl, rfl, rfl,
      .cons ⟨rfl, .array (.named (.inl rfl) (.cons (.named htext .nil)
        (.cons (.array (.named hbyte .nil)) .nil))), rfl, rfl⟩ .nil, .nil, rfl⟩
  have hcopy : (copy "byte").SameUpToAliases (copy "System.Byte") :=
    ⟨rfl, rfl, .cons ⟨rfl, .named (.inl rfl) (.cons (.named hbyte .nil) .nil), rfl, rfl⟩ .nil,
      .named (.inl rfl) .nil, rfl⟩
  have hping : (ping "void").SameUpToAliases (ping "System.Void") :=
    ⟨rfl, rfl, .cons ⟨rfl, .named (.inl rfl) .nil, rfl, rfl⟩ .nil, .named hnothing .nil, rfl⟩
  have hsame : (program "string" "byte" "void").SameUpToAliases
      (program "System.String" "System.Byte" "System.Void") :=
    ⟨rfl, rfl, .cons hresult
      (.cons ⟨rfl, rfl, rfl, .nil, .cons hcopy (.cons hping .nil), rfl⟩ .nil)⟩
  have hdeclared : (program "string" "byte" "void").DeclaresNoAlias := by decide
  exact ⟨hsame, hdeclared, generate_sameUpToAliases hsame hdeclared .standard⟩

end OrderAliases

end FunctionBindings
