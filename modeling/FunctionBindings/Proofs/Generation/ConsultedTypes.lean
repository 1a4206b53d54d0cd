import FunctionBindings.Proofs.Generation.LookAlikes
import FunctionBindings.Proofs.Scan.Naming

/-!
# Types that bindings depend on

The bindings of a function depend on the types of its parameters, on its return type, and on the
types of the members that the program declares for its return type, and on all of these only as far
as the conventions tell them apart (`looksLike_retype`). A scan searches the types of the parameters
and the return type for unresolved ones, however deep, but not those of the members. So unresolved
types of members have a say in records, and no others (`consultedTypes_of_result`,
`exists_unresolved_decides`).
-/

namespace FunctionBindings

section

variable (f : TypeRef → TypeRef)

/-- A parameter with another type. -/
def Parameter.retype (param : Parameter) : Parameter := { param with type := f param.type }

/-- A member with another type. -/
def Member.retype (member : Member) : Member := { member with type := f member.type }

/-- A method with other types in its signature. -/
def Method.retype (method : Method) : Method :=
  { method with params := method.params.map (·.retype f), returnType := f method.returnType }

/-- A function with other types in its signature and of the members of its return type. -/
def ScannedFunction.retype (function : ScannedFunction) : ScannedFunction :=
  { function with
    method := function.method.retype f
    returnDeclaration := function.returnDeclaration.map fun declaration ↦
      { declaration with members := declaration.members.map (·.retype f) } }

end

namespace ScannedFunction

/-- The types that the bindings of a function depend on. -/
def consultedTypes (function : ScannedFunction) : List TypeRef :=
  function.method.params.map (·.type) ++ function.method.returnType ::
    function.returnMembers.map (·.type)

/-- True of other types for a function that the conventions do not tell from its own. -/
structure LooksSame (function : ScannedFunction) (conventions : Conventions)
    (f : TypeRef → TypeRef) : Prop where
  parameters : ∀ param ∈ function.method.params,
    conventions.dataType? (f param.type) = conventions.dataType? param.type
  returnVoid : (f function.method.returnType).isVoid = function.method.returnType.isVoid
  returnResponse : conventions.isHttpResponse (f function.method.returnType) =
    conventions.isHttpResponse function.method.returnType
  memberResponses : ∀ member ∈ function.returnMembers,
    conventions.isHttpResponse (f member.type) = conventions.isHttpResponse member.type
  memberHints : ∀ member ∈ function.returnMembers,
    conventions.dataType? (f member.type) = conventions.dataType? member.type

variable {function : ScannedFunction} {catalog : Catalog} {conventions : Conventions}
  {f : TypeRef → TypeRef}

variable (function f) in
/-- The members of the return type keep all but their types. -/
theorem returnMembers_retype :
    (function.retype f).returnMembers = function.returnMembers.map (·.retype f) := by
  simp only [returnMembers, retype]
  cases function.returnDeclaration <;> rfl

/-- With types that look the same, a function looks as before. -/
theorem looksLike_retype (h : function.LooksSame conventions f) :
    (function.retype f).LooksLike catalog conventions function := by
  refine ⟨rfl, rfl, rfl, rfl, rfl, catalog.readsAlike_of_eq rfl, rfl, ?_, h.returnVoid,
    h.returnResponse, ?_⟩
  · simp only [retype, Method.retype, List.forall₂_map_left_iff, List.forall₂_same]
    exact fun param hparam ↦ ⟨rfl, catalog.readsAlike_of_eq rfl, h.parameters param hparam⟩
  · rw [returnMembers_retype, List.forall₂_map_left_iff, List.forall₂_same]
    exact fun member hmember ↦ ⟨rfl, catalog.readsAlike_of_eq rfl, rfl,
      h.memberResponses member hmember, h.memberHints member hmember⟩

/-- With types that look the same, a function has the same record. -/
theorem fullRecord_retype (h : function.LooksSame conventions f) (assembly : String) :
    (function.retype f).fullRecord catalog conventions assembly =
      function.fullRecord catalog conventions assembly :=
  (looksLike_retype h).fullRecord_eq assembly

/-- All types that bindings depend on are resolved if those of the signature and of the members
are. -/
theorem forall_consultedTypes_iff (h : function.method.HasResolvedTypes) :
    (∀ type ∈ function.consultedTypes, type.IsResolved) ↔
      ∀ member ∈ function.returnMembers, member.type.IsResolved := by
  obtain ⟨hparams, hreturn⟩ := h
  simp only [consultedTypes, List.mem_append, List.mem_cons, List.mem_map]
  constructor
  · intro hall member hmember
    exact hall member.type (.inr (.inr ⟨member, hmember, rfl⟩))
  · rintro hmembers type (⟨param, hparam, rfl⟩ | rfl | ⟨member, hmember, rfl⟩)
    · exact hparams param hparam
    · exact hreturn
    · exact hmembers member hmember

/-- Of a function with a resolved signature, only unresolved types of members can look different
when nothing but unresolved types is replaced. -/
theorem looksSame_of_hasResolvedTypes (h : function.method.HasResolvedTypes)
    (hresolved : ∀ type : TypeRef, type.IsResolved → f type = type)
    (hmembers : ∀ member ∈ function.returnMembers, ¬ member.type.IsResolved →
      conventions.isHttpResponse (f member.type) = conventions.isHttpResponse member.type ∧
      conventions.dataType? (f member.type) = conventions.dataType? member.type) :
    function.LooksSame conventions f := by
  obtain ⟨hparams, hreturn⟩ := h
  have hsame : ∀ member ∈ function.returnMembers,
      conventions.isHttpResponse (f member.type) = conventions.isHttpResponse member.type ∧
      conventions.dataType? (f member.type) = conventions.dataType? member.type := by
    intro member hmember
    by_cases htype : member.type.IsResolved
    · rw [hresolved member.type htype]
      exact ⟨rfl, rfl⟩
    · exact hmembers member hmember htype
  refine ⟨fun param hparam ↦ ?_, ?_, ?_, fun member hmember ↦ (hsame member hmember).1,
    fun member hmember ↦ (hsame member hmember).2⟩
  · rw [hresolved param.type (hparams param hparam)]
  · rw [hresolved function.method.returnType hreturn]
  · rw [hresolved function.method.returnType hreturn]

end ScannedFunction

/-- The records of a success are those of the functions of the scan. The types of the parameters of
each of them and its return type are resolved at every depth, so all types that its bindings depend
on are resolved exactly if those of the members of its return type are. Whatever stands for
unresolved types, the record is the same, as long as the conventions do not tell the types of
members apart that are unresolved. -/
theorem consultedTypes_of_result {program : Program} {options : GeneratorOptions}
    {records : List FunctionRecord} (h : (program.generate options).result = .ok records) :
    ∃ functions, program.scan options.conventions = .ok functions ∧
      records = functions.map (fun function ↦
        function.fullRecord (.forProgram program) options.conventions program.assembly) ∧
      ∀ function ∈ functions,
        (∀ param ∈ function.method.params, param.type.IsResolved) ∧
        function.method.returnType.IsResolved ∧
        ((∀ type ∈ function.consultedTypes, type.IsResolved) ↔
          ∀ member ∈ function.returnMembers, member.type.IsResolved) ∧
        ∀ f : TypeRef → TypeRef, (∀ type : TypeRef, type.IsResolved → f type = type) →
          (∀ member ∈ function.returnMembers, ¬ member.type.IsResolved →
            options.conventions.isHttpResponse (f member.type) =
              options.conventions.isHttpResponse member.type ∧
            options.conventions.dataType? (f member.type) =
              options.conventions.dataType? member.type) →
          (function.retype f).fullRecord (.forProgram program) options.conventions
              program.assembly =
            function.fullRecord (.forProgram program) options.conventions program.assembly := by
  obtain ⟨functions, hscan, hrecords⟩ := program.exists_functions_of_result_eq_ok options h
  obtain ⟨-, hfunctions⟩ := Program.scan_eq_ok_iff.1 hscan
  refine ⟨functions, hscan, hrecords, fun function hfunction ↦ ?_⟩
  have htypes : function.method.HasResolvedTypes :=
    (isFrom_of_mem_functionsOf (hfunctions ▸ hfunction)).resolved
  refine ⟨htypes.1, htypes.2, ScannedFunction.forall_consultedTypes_iff htypes,
    fun f hresolved hmembers ↦ ?_⟩
  exact ScannedFunction.fullRecord_retype
    (ScannedFunction.looksSame_of_hasResolvedTypes htypes hresolved hmembers) program.assembly

namespace CopiedResult

/-- A method that returns the type with the members. -/
def method : Method :=
  ((Method.of "Run" (.named "Result" [])).annotated
    ((Attribute.named "Function").withArgument (.string "Copy"))).withSpan ⟨10, 40⟩

/-- The type that owns the method. -/
def owner : DeclaredType := ((DeclaredType.of "Orders").inFile "Orders.cs").withMethod method

/-- A type with a member without attributes and one for a queue. -/
def result (reply item : TypeRef) : DeclaredType :=
  (((DeclaredType.of "Result").inFile "Orders.cs").withMember (.of "Reply" reply)).withMember
    ((Member.of "Item" item).annotated
      ((Attribute.named "QueueOutput").withArgument (.string "orders")))

/-- The program of both types. -/
def program (reply item : TypeRef) : Program :=
  ((Program.of "Shop").withType owner).withType (result reply item)

/-- The function of the program. -/
def function (reply item : TypeRef) : ScannedFunction :=
  ⟨"Copy", "Shop.Orders.Run", owner, method, some (result reply item)⟩

/-- The record of the function. -/
def record (reply item : TypeRef) : FunctionRecord :=
  (function reply item).fullRecord (.forProgram (program reply item)) .standard "Shop"

/-- The name of the response type, which could not be resolved. -/
def reply : TypeRef := .unresolved "Microsoft.Azure.Functions.Worker.Http.HttpResponseData"

/-- The name of the type of texts, which could not be resolved. -/
def item : TypeRef := .unresolved "System.String"

/-- Other texts for unresolved types. -/
def renamed : TypeRef → TypeRef
  | .unresolved _ => .unresolved "Missing"
  | type => type

/-- The unresolved types of two members give a response and a hint, which are gone with other texts
in their place. -/
theorem exists_unresolved_decides :
    ((program reply item).generate .standard).result = .ok [record reply item] ∧
    (program reply item).scan .standard = .ok [function reply item] ∧
    (∃ type ∈ (function reply item).consultedTypes, ¬ type.IsResolved) ∧
    (∀ type : TypeRef, type.IsResolved → renamed type = type) ∧
    (((function reply item).classify (.forProgram (program reply item))
      .standard).bindings.map fun binding ↦ (binding.name, binding.source, binding.dataType)) =
        [("Reply", .synthesized, none), ("Item", .member, some .string)] ∧
    ((((function reply item).retype renamed).classify (.forProgram (program reply item))
      .standard).bindings.map fun binding ↦ (binding.name, binding.source, binding.dataType)) =
        [("Item", .member, none)] := by
  have hconsulted : (function reply item).consultedTypes[2]? = some item := rfl
  refine ⟨rfl, rfl, ⟨item, List.mem_of_getElem? hconsulted, fun h ↦ h _ .here⟩, ?_, rfl, rfl⟩
  intro type hresolved
  cases type with
  | void | named | array => rfl
  | unresolved text => exact absurd .here (hresolved text)

/-- With resolved members, all types that the bindings depend on are resolved. -/
theorem consultedTypes_of_result_resolved :
    ((program (.named "HttpResponseData" []) (.named "string" [])).generate .standard).result =
      .ok [record (.named "HttpResponseData" []) (.named "string" [])] ∧
    ∀ type ∈ (function (.named "HttpResponseData" []) (.named "string" [])).consultedTypes,
      type.IsResolved := by
  have hresult : ((program (.named "HttpResponseData" []) (.named "string" [])).generate
    .standard).result = .ok [record (.named "HttpResponseData" []) (.named "string" [])] := rfl
  have hscan : (program (.named "HttpResponseData" []) (.named "string" [])).scan .standard =
    .ok [function (.named "HttpResponseData" []) (.named "string" [])] := rfl
  obtain ⟨functions, hfound, -, hall⟩ := consultedTypes_of_result hresult
  obtain rfl := Except.ok.inj (hfound.symm.trans hscan)
  obtain ⟨-, -, hresolved, -⟩ := hall _ (List.mem_singleton_self _)
  refine ⟨hresult, hresolved.2 fun member hmember ↦ ?_⟩
  have hnone : ∀ member ∈ (result (.named "HttpResponseData" []) (.named "string" [])).members,
      member.type.firstUnresolved? = none :=
    List.forall_mem_cons.2 ⟨rfl, List.forall_mem_singleton.2 rfl⟩
  exact (TypeRef.firstUnresolved?_eq_none_iff member.type).1 (hnone member hmember)

end CopiedResult

end FunctionBindings
