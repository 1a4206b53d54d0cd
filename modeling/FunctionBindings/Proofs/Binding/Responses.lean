import FunctionBindings.Proofs.Binding.RuleReport

/-!
# HTTP responses

Which HTTP responses a function has, read off its return type alone: none if it returns nothing, the
return value if that is a response, and otherwise one for each member that is a response. A function
without any such member still responds with its return value if `ScannedFunction.NeedsResponse`
holds of it. Main statement: `httpResponses_classify`. The response of the return value never stands
beside that of a member, so that more than one response always means more than one member.
-/

namespace FunctionBindings

/-- The attributes that bind something are those that the catalog knows. -/
theorem Catalog.mem_recognize {catalog : Catalog} {attributes : List Attribute} {attr : Attribute}
    {spec : BindingSpec} :
    (attr, spec) ∈ catalog.recognize attributes ↔
      attr ∈ attributes ∧ catalog.lookup? attr.name = some spec := by
  simp only [recognize, List.mem_filterMap, Option.map_eq_some_iff]
  constructor
  · rintro ⟨other, hmem, found, hlookup, hpair⟩
    obtain ⟨rfl, rfl⟩ := Prod.mk.inj hpair
    exact ⟨hmem, hlookup⟩
  · rintro ⟨hmem, hlookup⟩
    exact ⟨attr, hmem, spec, hlookup, rfl⟩

/-- Only outputs carry data out of a function. -/
theorem BindingSpec.direction_eq_output_iff (spec : BindingSpec) :
    spec.direction = .output ↔ spec.kind = .output := by
  unfold direction
  cases spec.kind <;> simp [BindingKind.direction]

@[simp] theorem Binding.isHttpResponse_declared (name : String) (source : BindingSource)
    (dataType : Option DataType) (attr : Attribute) (spec : BindingSpec) :
    (Binding.declared name source dataType attr spec).isHttpResponse = false := rfl

@[simp] theorem Binding.isHttpResponse_httpResponse (name : String) (span : Span) :
    (Binding.httpResponse name span).isHttpResponse = true := rfl

namespace ScannedFunction

/-- True of a function that responds with its return value although its type is no response: no
member that the type declares is a response or stands under an output, and some parameter is an HTTP
trigger. -/
def NeedsResponse (function : ScannedFunction) (catalog : Catalog) (conventions : Conventions) :
    Prop :=
  (∀ member ∈ function.returnDeclaration.elim [] (·.members),
    ¬ conventions.isHttpResponse member.type) ∧
  (∀ member ∈ function.returnDeclaration.elim [] (·.members), ∀ attr ∈ member.attributes,
    ∀ spec ∈ catalog.lookup? attr.name, spec.kind ≠ .output) ∧
  (∃ param ∈ function.method.params, ∃ attr ∈ param.attributes,
    ∃ spec ∈ catalog.lookup? attr.name, spec.isHttpTrigger)

instance (function : ScannedFunction) (catalog : Catalog) (conventions : Conventions) :
    Decidable (function.NeedsResponse catalog conventions) :=
  inferInstanceAs (Decidable (_ ∧ _ ∧ _))

variable (function : ScannedFunction) (catalog : Catalog) (conventions : Conventions)

/-- The members of the return type are those of its declaration, if there is one. -/
theorem returnMembers_eq_elim :
    function.returnMembers = function.returnDeclaration.elim [] (·.members) := by
  unfold returnMembers
  cases function.returnDeclaration <;> rfl

/-- The HTTP responses of the members of the return type. -/
def memberResponses : List Binding :=
  (function.returnMembers.filter fun member ↦ conventions.isHttpResponse member.type).map
    fun member ↦ .httpResponse member.name member.span

/-- The HTTP response of the return value. -/
def returnResponse : Binding := .httpResponse returnBindingName function.method.span

/-- A function has an HTTP trigger if the catalog knows an attribute of a parameter as one. -/
theorem hasHttpTrigger_iff :
    function.hasHttpTrigger catalog ↔
      ∃ param ∈ function.method.params, ∃ attr ∈ param.attributes,
        ∃ spec ∈ catalog.lookup? attr.name, spec.isHttpTrigger := by
  simp only [hasHttpTrigger, List.any_eq_true, Prod.exists, Catalog.mem_recognize]
  constructor
  · rintro ⟨param, hparam, attr, spec, ⟨hattr, hspec⟩, htrigger⟩
    exact ⟨param, hparam, attr, hattr, spec, hspec, htrigger⟩
  · rintro ⟨param, hparam, attr, hattr, spec, hspec, htrigger⟩
    exact ⟨param, hparam, attr, spec, ⟨hattr, hspec⟩, htrigger⟩

/-- A member is an output if it is a response or stands under an output. -/
theorem any_output_bindingsOfMember_iff (member : Member) :
    (bindingsOfMember catalog conventions member).any (·.direction = .output) ↔
      conventions.isHttpResponse member.type ∨
        ∃ attr ∈ member.attributes, ∃ spec ∈ catalog.lookup? attr.name, spec.kind = .output := by
  unfold bindingsOfMember
  split
  · rename_i hresponse
    simp [hresponse, Binding.httpResponse]
  · rename_i hresponse
    simp only [hresponse, List.any_map, List.any_eq_true, Prod.exists, Catalog.mem_recognize,
      Function.comp_apply, decide_eq_true_eq, false_or, Bool.false_eq_true]
    constructor
    · rintro ⟨attr, spec, ⟨hattr, hspec⟩, houtput⟩
      exact ⟨attr, hattr, spec, hspec, spec.direction_eq_output_iff.1 houtput⟩
    · rintro ⟨attr, hattr, spec, hspec, houtput⟩
      exact ⟨attr, spec, ⟨hattr, hspec⟩, spec.direction_eq_output_iff.2 houtput⟩

/-- The code asks whether no member is an output and whether there is a trigger. -/
theorem needsResponse_iff :
    function.NeedsResponse catalog conventions ↔
      (function.returnMembers.flatMap (bindingsOfMember catalog conventions)).any
          (·.direction = .output) = false ∧
        function.hasHttpTrigger catalog := by
  have hmembers : (function.returnMembers.flatMap (bindingsOfMember catalog conventions)).any
        (·.direction = .output) = false ↔
      ∀ member ∈ function.returnMembers,
        ¬ (bindingsOfMember catalog conventions member).any (·.direction = .output) := by
    simp [List.any_flatMap]
  rw [NeedsResponse, ← returnMembers_eq_elim, hmembers]
  simp only [any_output_bindingsOfMember_iff, hasHttpTrigger_iff, not_or]
  constructor
  · rintro ⟨hresponse, houtput, htrigger⟩
    refine ⟨fun member hmember ↦ ⟨hresponse member hmember, ?_⟩, htrigger⟩
    rintro ⟨attr, hattr, spec, hspec, hkind⟩
    exact houtput member hmember attr hattr spec hspec hkind
  · rintro ⟨hnone, htrigger⟩
    refine ⟨fun member hmember ↦ (hnone member hmember).1, ?_, htrigger⟩
    intro member hmember attr hattr spec hspec hkind
    exact (hnone member hmember).2 ⟨attr, hattr, spec, hspec, hkind⟩

/-- The bindings of a return type with members: what the members declare, and the response of the
return value at the end if one is needed. -/
theorem returnBindings_eq (hvoid : ¬ function.method.returnType.isVoid)
    (hresponse : ¬ conventions.isHttpResponse function.method.returnType) :
    function.returnBindings catalog conventions =
      function.returnMembers.flatMap (bindingsOfMember catalog conventions) ++
        if function.NeedsResponse catalog conventions then [function.returnResponse] else [] := by
  unfold returnBindings
  simp only [hvoid, hresponse, needsResponse_iff, Bool.false_eq_true, if_false]
  -- An output of a member decides first; a trigger matters only if there is none.
  cases hany : (function.returnMembers.flatMap (bindingsOfMember catalog conventions)).any
      (·.direction = .output) with
  | true => simp
  | false => cases function.hasHttpTrigger catalog <;> simp [returnResponse]

/-- What the return type carries is its own response or stands on one of its members. -/
theorem mem_returnBindings {binding : Binding}
    (h : binding ∈ function.returnBindings catalog conventions) :
    binding = function.returnResponse ∨
      ∃ member ∈ function.returnMembers, binding ∈ bindingsOfMember catalog conventions member := by
  by_cases hvoid : function.method.returnType.isVoid
  · simp [returnBindings, hvoid] at h
  by_cases hresponse : conventions.isHttpResponse function.method.returnType
  · left
    simpa [returnBindings, hvoid, hresponse, returnResponse] using h
  rw [function.returnBindings_eq catalog conventions hvoid hresponse] at h
  rcases List.mem_append.1 h with hmember | hresponds
  · exact .inr (List.mem_flatMap.1 hmember)
  · split at hresponds
    · exact .inl (List.mem_singleton.1 hresponds)
    · cases hresponds

/-- Only types that are responses make a member a response. -/
theorem filter_isHttpResponse_bindingsOfMember (member : Member) :
    (bindingsOfMember catalog conventions member).filter (·.isHttpResponse) =
      if conventions.isHttpResponse member.type then
        [.httpResponse member.name member.span]
      else [] := by
  unfold bindingsOfMember
  split
  · rfl
  · simp [List.filter_map, Function.comp_def]

/-- The responses among the bindings of the members are those of the members that are responses. -/
theorem filter_isHttpResponse_members (members : List Member) :
    (members.flatMap (bindingsOfMember catalog conventions)).filter (·.isHttpResponse) =
      (members.filter fun member ↦ conventions.isHttpResponse member.type).map
        fun member ↦ .httpResponse member.name member.span := by
  induction members with
  | nil => rfl
  | cons member members ih =>
      rw [List.flatMap_cons, List.filter_append, filter_isHttpResponse_bindingsOfMember, ih,
        List.filter_cons]
      split <;> rfl

/-- Attributes of the method and the parameters never make a response. -/
theorem httpResponses_classify_eq_filter :
    (function.classify catalog conventions).httpResponses =
      (function.returnBindings catalog conventions).filter (·.isHttpResponse) := by
  have hmethod : (function.methodBindings catalog).filter (·.isHttpResponse) = [] := by
    simp only [methodBindings, List.filter_eq_nil_iff, List.mem_map]
    rintro binding ⟨entry, -, rfl⟩
    simp
  have hparams :
      (function.parameterBindings catalog conventions).filter (·.isHttpResponse) = [] := by
    simp only [parameterBindings, List.filter_eq_nil_iff, List.mem_flatMap, bindingsOfParameter,
      List.mem_map]
    rintro binding ⟨param, -, entry, -, rfl⟩
    simp
  simp [Classification.httpResponses, classify, hmethod, hparams]

/-- The responses of a function, by the kind of its return type. -/
theorem httpResponses_eq :
    (function.classify catalog conventions).httpResponses =
      if function.method.returnType.isVoid then []
      else if conventions.isHttpResponse function.method.returnType then
        [function.returnResponse]
      else function.memberResponses conventions ++
        if function.NeedsResponse catalog conventions then [function.returnResponse] else [] := by
  rw [httpResponses_classify_eq_filter]
  by_cases hvoid : function.method.returnType.isVoid
  · simp [returnBindings, hvoid]
  · by_cases hresponse : conventions.isHttpResponse function.method.returnType
    · simp [returnBindings, hvoid, hresponse, returnResponse]
    · rw [function.returnBindings_eq catalog conventions hvoid hresponse, List.filter_append,
        filter_isHttpResponse_members, if_neg hvoid, if_neg hresponse, memberResponses]
      split <;> simp [returnResponse]

/-- A response of the return value is needed only if no member is a response. -/
theorem memberResponses_eq_nil_of_needsResponse
    (h : function.NeedsResponse catalog conventions) :
    function.memberResponses conventions = [] := by
  rw [memberResponses, List.map_eq_nil_iff, List.filter_eq_nil_iff, returnMembers_eq_elim]
  exact h.1

/-- A response of the return value stands behind all other bindings. -/
theorem getLast?_bindings_classify (hvoid : ¬ function.method.returnType.isVoid)
    (h : conventions.isHttpResponse function.method.returnType ∨
      function.NeedsResponse catalog conventions) :
    (function.classify catalog conventions).bindings.getLast? = some function.returnResponse := by
  have hreturn : ∃ before, function.returnBindings catalog conventions =
      before ++ [function.returnResponse] := by
    by_cases hresponse : conventions.isHttpResponse function.method.returnType
    · exact ⟨[], by simp [returnBindings, hvoid, hresponse, returnResponse]⟩
    · rw [function.returnBindings_eq catalog conventions hvoid hresponse,
        if_pos (h.resolve_left hresponse)]
      exact ⟨_, rfl⟩
  obtain ⟨before, hbefore⟩ := hreturn
  simp [classify, hbefore]

/-- There is more than one response exactly if more than one member is a response. -/
theorem two_le_length_httpResponses_iff :
    2 ≤ (function.classify catalog conventions).httpResponses.length ↔
      ¬ function.method.returnType.isVoid ∧
        ¬ conventions.isHttpResponse function.method.returnType ∧
        2 ≤ (function.returnMembers.filter fun member ↦
          conventions.isHttpResponse member.type).length := by
  rw [httpResponses_eq]
  by_cases hvoid : function.method.returnType.isVoid
  · simp [hvoid]
  by_cases hresponse : conventions.isHttpResponse function.method.returnType
  · simp [hvoid, hresponse]
  have hlength : (function.memberResponses conventions).length =
      (function.returnMembers.filter fun member ↦
        conventions.isHttpResponse member.type).length := by
    simp [memberResponses]
  -- A response of the return value does not count: it is needed only if it is the only one.
  by_cases hneeds : function.NeedsResponse catalog conventions
  · have hnone := function.memberResponses_eq_nil_of_needsResponse catalog conventions hneeds
    simp [hvoid, hresponse, hneeds, ← hlength, hnone]
  · simp [hvoid, hresponse, hneeds, hlength]

/-- Several responses are reported if there are several. -/
theorem responses_mem_codes_validate_iff (found : Classification) :
    "E-BIND-002" ∈ (function.validate found).map (·.code) ↔ 2 ≤ found.httpResponses.length := by
  have hcodes := (function.ruleReport_isAbout found).codes
  have hnone := function.checkHttpResponses_eq_nil_iff found
  rw [List.countP_eq_length_filter] at hnone
  rw [validate_eq_all, hcodes]
  simp only [List.mem_append, List.mem_replicate, String.reduceEq, and_false, and_true, or_false,
    false_or, ne_eq, List.length_eq_zero_iff]
  rw [show (function.ruleReport found).httpResponses = function.checkHttpResponses found from rfl,
    hnone, Classification.httpResponses]
  omega

end ScannedFunction

/-- The HTTP responses of a function are those of its return type: none, the return value at the
very end, or the declared members that are responses in order, with the return value at the very end
if a response is needed. More than one response is reported exactly if more than one member is a
response, and a response of the return value stands alone. -/
theorem httpResponses_classify (function : ScannedFunction) (catalog : Catalog)
    (conventions : Conventions) :
    let found := function.classify catalog conventions
    let type := function.method.returnType
    let members := function.returnDeclaration.elim [] (·.members)
    let needed := function.NeedsResponse catalog conventions
    (type.isVoid → found.httpResponses = []) ∧
    (¬ type.isVoid → conventions.isHttpResponse type →
      found.httpResponses = [.httpResponse returnBindingName function.method.span] ∧
      found.bindings.getLast? = some (.httpResponse returnBindingName function.method.span)) ∧
    (¬ type.isVoid → ¬ conventions.isHttpResponse type →
      found.httpResponses =
        ((members.filter fun member ↦ conventions.isHttpResponse member.type).map
          fun member ↦ .httpResponse member.name member.span) ++
        (if needed then [.httpResponse returnBindingName function.method.span] else []) ∧
      (needed → found.httpResponses = [.httpResponse returnBindingName function.method.span] ∧
        found.bindings.getLast? = some (.httpResponse returnBindingName function.method.span))) ∧
    ((∃ errors, checkFunction function catalog conventions = .error errors ∧
        "E-BIND-002" ∈ errors.map (·.code)) ↔
      ¬ type.isVoid ∧ ¬ conventions.isHttpResponse type ∧
        2 ≤ (members.filter fun member ↦
          conventions.isHttpResponse member.type).length) := by
  intro found type members needed
  have hmembers : members = function.returnMembers := function.returnMembers_eq_elim.symm
  have hall := function.httpResponses_eq catalog conventions
  rw [hmembers]
  refine ⟨?_, ?_, ?_, ?_⟩
  · intro hvoid
    simpa [type, hvoid] using hall
  · intro hvoid hresponse
    refine ⟨by simpa [type, hvoid, hresponse, ScannedFunction.returnResponse] using hall, ?_⟩
    exact function.getLast?_bindings_classify catalog conventions hvoid (.inl hresponse)
  · intro hvoid hresponse
    rw [if_neg hvoid, if_neg hresponse] at hall
    refine ⟨hall, fun hneeded ↦ ⟨?_, ?_⟩⟩
    · rw [function.memberResponses_eq_nil_of_needsResponse catalog conventions hneeded,
        if_pos hneeded] at hall
      exact hall
    · exact function.getLast?_bindings_classify catalog conventions hvoid (.inr hneeded)
  · rw [← function.two_le_length_httpResponses_iff catalog conventions,
      ← function.responses_mem_codes_validate_iff]
    constructor
    · rintro ⟨errors, hrefused, hcode⟩
      obtain ⟨-, rfl⟩ := checkFunction_eq_error_iff.1 hrefused
      exact hcode
    · intro hcode
      refine ⟨_, checkFunction_eq_error_iff.2 ⟨fun hrules ↦ ?_, rfl⟩, hcode⟩
      have hone := hrules.httpResponses
      rw [List.countP_eq_length_filter] at hone
      have htwo := (function.responses_mem_codes_validate_iff found).1 hcode
      exact Nat.not_lt.2 hone htwo

end FunctionBindings
