import FunctionBindings.Proofs.Binding.Responses
import FunctionBindings.Proofs.Scan.Naming

/-!
# Sites of attributes

The attributes of a function stand on its method, its parameters and the members of its return type.
The passes of the classification go through these sites in this order and take every attribute just
once; what they make of it depends on its site alone: the binding that it declares
(`Site.binding?`), and whether it is noted as legacy (`Site.legacy?`). Main statement:
`classify_sites`.
-/

namespace FunctionBindings

/-- What attributes of a function stand on. -/
structure Site where
  /-- The name of what the attributes stand on. -/
  name : String
  /-- The name of the bindings that they declare. -/
  bindingName : String
  source : BindingSource
  dataType : Option DataType
  attributes : List Attribute

namespace Site

/-- The site of a method; its bindings are those of the return value. -/
def ofMethod (method : Method) : Site where
  name := method.name
  bindingName := returnBindingName
  source := .method
  dataType := none
  attributes := method.attributes

/-- The site of a parameter. -/
def ofParameter (conventions : Conventions) (param : Parameter) : Site where
  name := param.name
  bindingName := param.name
  source := .parameter
  dataType := conventions.dataType? param.type
  attributes := param.attributes

/-- The site of a member of the return type. -/
def ofMember (conventions : Conventions) (member : Member) : Site where
  name := member.name
  bindingName := member.name
  source := .member
  dataType := conventions.dataType? member.type
  attributes := member.attributes

variable (catalog : Catalog)

/-- The binding that an attribute declares on a site; on a method only outputs do. -/
def binding? (site : Site) (attr : Attribute) : Option Binding :=
  (catalog.lookup? attr.name).bind fun spec ↦
    if site.source = .method ∧ spec.kind ≠ .output then none
    else some ⟨site.bindingName, site.source, .declared attr spec, spec.direction, site.dataType,
      attr.span⟩

/-- The note that an attribute is legacy, with the name of what it stands on. -/
def legacy? (site : Site) (attr : Attribute) : Option (Attribute × String) :=
  if catalog.isLegacy attr.name then some (attr, site.name) else none

variable {catalog} in
/-- An attribute declares the binding of its spec, on a method only if that is an output. -/
theorem binding?_eq_some_iff {site : Site} {attr : Attribute} {binding : Binding} :
    site.binding? catalog attr = some binding ↔
      ∃ spec, catalog.lookup? attr.name = some spec ∧
        (site.source = .method → spec.kind = .output) ∧
        binding = .declared site.bindingName site.source site.dataType attr spec := by
  rw [binding?, Option.bind_eq_some_iff]
  refine exists_congr fun spec ↦ and_congr_right fun _ ↦ ?_
  rw [Option.ite_none_left_eq_some, Option.some_inj, not_and, not_not]
  exact and_congr_right fun _ ↦ eq_comm

variable {catalog} in
/-- An attribute is noted as legacy if its name is. -/
theorem legacy?_eq_some_iff {site : Site} {attr : Attribute} {entry : Attribute × String} :
    site.legacy? catalog attr = some entry ↔
      catalog.isLegacy attr.name ∧ entry = (attr, site.name) := by
  rw [legacy?, Option.ite_none_right_eq_some, Option.some_inj]
  exact and_congr_right fun _ ↦ eq_comm

/-- The bindings that the attributes of a site declare, in order. -/
def bindings (site : Site) : List Binding :=
  site.attributes.filterMap (site.binding? catalog)

/-- What a site declares is no response that types imply. -/
theorem filter_isHttpResponse_bindings (site : Site) :
    (site.bindings catalog).filter (!·.isHttpResponse) = site.bindings catalog := by
  rw [List.filter_eq_self]
  intro binding hbinding
  obtain ⟨attr, -, hdeclared⟩ := List.mem_filterMap.1 hbinding
  obtain ⟨spec, -, -, rfl⟩ := binding?_eq_some_iff.1 hdeclared
  rfl

/-- The attributes of a site that declare bindings are among those that the catalog knows. -/
theorem bindings_eq_recognize (site : Site) :
    site.bindings catalog =
      ((catalog.recognize site.attributes).filter fun entry ↦
        ¬ (site.source = .method ∧ entry.2.kind ≠ .output)).map fun entry ↦
          .declared site.bindingName site.source site.dataType entry.1 entry.2 := by
  rw [bindings, Catalog.recognize, ← List.filterMap_eq_filter, List.map_filterMap,
    List.filterMap_filterMap]
  congr 1
  funext attr
  cases hspec : catalog.lookup? attr.name with
  | none => simp [binding?, hspec]
  | some spec =>
      simp only [binding?, hspec, Option.bind_some, Option.map_some, Option.guard, decide_not]
      by_cases hskip : site.source = .method ∧ spec.kind ≠ .output
      · rw [if_pos hskip, decide_eq_true hskip]
        rfl
      · rw [if_neg hskip, decide_eq_false hskip]
        rfl

/-- All attributes that the catalog knows declare bindings, except on methods. -/
theorem bindings_eq_recognize_of_ne (site : Site) (h : site.source ≠ .method) :
    site.bindings catalog =
      (catalog.recognize site.attributes).map fun entry ↦
        .declared site.bindingName site.source site.dataType entry.1 entry.2 := by
  rw [bindings_eq_recognize, List.filter_eq_self.2]
  simp [h]

/-- The notes on the attributes of a site, in order. -/
theorem legacyAmong_eq_filterMap (site : Site) :
    catalog.legacyAmong site.name site.attributes =
      site.attributes.filterMap (site.legacy? catalog) := by
  rw [Catalog.legacyAmong, ← List.filterMap_eq_filter, List.map_filterMap]
  congr 1
  funext attr
  cases hlegacy : catalog.isLegacy attr.name <;> simp [legacy?, hlegacy]

end Site

/-- A hint for strings takes precedence over one for bytes. -/
theorem Conventions.dataType?_eq (conventions : Conventions) (type : TypeRef) :
    conventions.dataType? type =
      if type.fullName ∈ conventions.stringTypes then some .string
      else if type.fullName ∈ conventions.binaryTypes then some .binary
      else none := by
  simp only [dataType?, isString, isBinary, List.contains_iff_mem]

namespace ScannedFunction

variable (function : ScannedFunction) (catalog : Catalog) (conventions : Conventions)

/-- The sites of a function in pass order. The members of a return type that is void or a response
are no sites, nor is a member that is a response. -/
def sites : List Site :=
  .ofMethod function.method :: function.method.params.map (.ofParameter conventions) ++
    ((function.consideredMembers conventions).filter fun member ↦
      !conventions.isHttpResponse member.type).map (.ofMember conventions)

/-- The attributes of a function in pass order, each with its site. -/
def siteAttributes : List (Site × Attribute) :=
  (function.sites conventions).flatMap fun site ↦ site.attributes.map fun attr ↦ (site, attr)

/-- The first pass takes what the attributes of the method declare. -/
theorem methodBindings_eq_bindings :
    function.methodBindings catalog = (Site.ofMethod function.method).bindings catalog := by
  simp [methodBindings, Site.bindings_eq_recognize, Site.ofMethod]

/-- The second pass takes what the attributes of a parameter declare. -/
theorem bindingsOfParameter_eq_bindings (param : Parameter) :
    bindingsOfParameter catalog conventions param =
      (Site.ofParameter conventions param).bindings catalog :=
  ((Site.ofParameter conventions param).bindings_eq_recognize_of_ne catalog nofun).symm

/-- The third pass takes what the attributes of a member declare, unless the member is a
response. -/
theorem filter_declared_bindingsOfMember (member : Member) :
    (bindingsOfMember catalog conventions member).filter (!·.isHttpResponse) =
      if conventions.isHttpResponse member.type then []
      else (Site.ofMember conventions member).bindings catalog := by
  unfold bindingsOfMember
  split
  · rfl
  · rw [← Site.filter_isHttpResponse_bindings,
      (Site.ofMember conventions member).bindings_eq_recognize_of_ne catalog nofun]
    rfl

/-- To pass over the members that are responses is to leave them out at first. -/
theorem flatMap_members {β : Type} (members : List Member) (f : Site → List β) :
    (members.flatMap fun member ↦
      if conventions.isHttpResponse member.type then []
      else f (Site.ofMember conventions member)) =
      ((members.filter fun member ↦ !conventions.isHttpResponse member.type).map
        (Site.ofMember conventions)).flatMap f := by
  induction members with
  | nil => rfl
  | cons member members ih =>
      rw [List.flatMap_cons, ih]
      by_cases hresponse : conventions.isHttpResponse member.type <;> simp [hresponse]

/-- What the return type declares is what the members that are looked at declare. -/
theorem filter_declared_returnBindings :
    (function.returnBindings catalog conventions).filter (!·.isHttpResponse) =
      (((function.consideredMembers conventions).filter fun member ↦
        !conventions.isHttpResponse member.type).map (Site.ofMember conventions)).flatMap
          (·.bindings catalog) := by
  by_cases hvoid : function.method.returnType.isVoid
  · simp [returnBindings, consideredMembers, hvoid]
  by_cases hresponse : conventions.isHttpResponse function.method.returnType
  · simp [returnBindings, consideredMembers, hvoid, hresponse]
  · rw [function.returnBindings_eq catalog conventions hvoid hresponse, List.filter_append,
      List.filter_flatMap]
    simp only [filter_declared_bindingsOfMember]
    rw [flatMap_members conventions _ fun site ↦ site.bindings catalog]
    split <;> simp [consideredMembers, hvoid, hresponse, returnResponse]

/-- The declared bindings of a function are those of its sites in pass order. -/
theorem filter_declared_classify :
    (function.classify catalog conventions).bindings.filter (!·.isHttpResponse) =
      (function.sites conventions).flatMap (·.bindings catalog) := by
  have hmethod : (function.methodBindings catalog).filter (!·.isHttpResponse) =
      (Site.ofMethod function.method).bindings catalog := by
    rw [methodBindings_eq_bindings, Site.filter_isHttpResponse_bindings]
  have hparams : (function.parameterBindings catalog conventions).filter (!·.isHttpResponse) =
      (function.method.params.map (Site.ofParameter conventions)).flatMap (·.bindings catalog) := by
    simp only [parameterBindings, List.filter_flatMap, List.flatMap_map,
      bindingsOfParameter_eq_bindings, Site.filter_isHttpResponse_bindings]
  rw [classify, List.filter_append, List.filter_append, hmethod, hparams,
    filter_declared_returnBindings, sites, List.flatMap_append, List.flatMap_cons]

/-- The legacy attributes of a function are those of its sites in pass order. -/
theorem legacyAttributes_eq_flatMap :
    function.legacyAttributes catalog conventions =
      (function.sites conventions).flatMap fun site ↦
        site.attributes.filterMap (site.legacy? catalog) := by
  rw [legacyAttributes, sites, List.flatMap_append, List.flatMap_cons, List.flatMap_map]
  simp only [← Site.legacyAmong_eq_filterMap]
  rw [← flatMap_members conventions _ fun site ↦ catalog.legacyAmong site.name site.attributes]
  rfl

/-- What is made of the attributes of every site is what is made of every attribute with its
site. -/
theorem flatMap_sites {β : Type} (f : Site → Attribute → Option β) :
    ((function.sites conventions).flatMap fun site ↦ site.attributes.filterMap (f site)) =
      (function.siteAttributes conventions).filterMap fun entry ↦ f entry.1 entry.2 := by
  simp only [siteAttributes, List.filterMap_flatMap, List.filterMap_map, Function.comp_def]

variable {function catalog conventions}

/-- A binding that types do not imply is one that an attribute declares on its site. -/
theorem mem_bindings_classify_iff {binding : Binding} (h : binding.isHttpResponse = false) :
    binding ∈ (function.classify catalog conventions).bindings ↔
      ∃ entry ∈ function.siteAttributes conventions,
        entry.1.binding? catalog entry.2 = some binding := by
  have hdeclared := (function.filter_declared_classify catalog conventions).trans
    (function.flatMap_sites conventions fun site ↦ site.binding? catalog)
  rw [← List.mem_filterMap, ← hdeclared, List.mem_filter, h]
  exact (and_iff_left rfl).symm

/-- A legacy attribute is one that is noted on its site. -/
theorem mem_legacy_classify_iff {entry : Attribute × String} :
    entry ∈ (function.classify catalog conventions).legacy ↔
      ∃ found ∈ function.siteAttributes conventions,
        found.1.legacy? catalog found.2 = some entry := by
  have hsites := function.flatMap_sites conventions fun site ↦ site.legacy? catalog
  rw [← List.mem_filterMap, ← hsites, ← legacyAttributes_eq_flatMap]
  rfl

end ScannedFunction

/-- The declared bindings of a function of a program, and its legacy attributes, are what its
attributes make of their sites, each attribute once and in this order: those of the method, of the
parameters, and of the members that the program declares for the return type, unless the type is
void or a response. Members that are responses are passed over. -/
theorem classify_sites {program : Program} {conventions : Conventions} {function : ScannedFunction}
    (hfunction : function ∈ functionsOf (program.scanOutcomes conventions)) (catalog : Catalog) :
    let found := function.classify catalog conventions
    let returned := function.method.returnType
    let members := ((TypeIndex.ofTypes program.types).lookup? returned).elim [] (·.members)
    let dataType (type : TypeRef) : Option DataType :=
      if type.fullName ∈ conventions.stringTypes then some .string
      else if type.fullName ∈ conventions.binaryTypes then some .binary
      else none
    let ofMethod : Site :=
      ⟨function.method.name, "$return", .method, none, function.method.attributes⟩
    let ofParameter (param : Parameter) : Site :=
      ⟨param.name, param.name, .parameter, dataType param.type, param.attributes⟩
    let ofMember (member : Member) : Site :=
      ⟨member.name, member.name, .member, dataType member.type, member.attributes⟩
    let sites := [ofMethod] ++ function.method.params.map ofParameter ++
      if returned.isVoid ∨ conventions.isHttpResponse returned then []
      else (members.filter fun member ↦ !conventions.isHttpResponse member.type).map ofMember
    let attributes := sites.flatMap fun site ↦ site.attributes.map fun attr ↦ (site, attr)
    (found.bindings.filter (!·.isHttpResponse) =
      attributes.filterMap fun (site, attr) ↦ do
        let spec ← catalog.lookup? attr.name
        if site.source = .method ∧ spec.kind ≠ .output then none
        else some ⟨site.bindingName, site.source, .declared attr spec, spec.direction,
          site.dataType, attr.span⟩) ∧
    found.legacy = attributes.filterMap fun (site, attr) ↦
      if catalog.isLegacy attr.name then some (attr, site.name) else none := by
  intro found returned members dataType ofMethod ofParameter ofMember sites attributes
  have hdataType : conventions.dataType? = dataType := funext conventions.dataType?_eq
  have hparam : Site.ofParameter conventions = ofParameter := by
    funext param
    rw [Site.ofParameter, hdataType]
  have hmember : Site.ofMember conventions = ofMember := by
    funext member
    rw [Site.ofMember, hdataType]
  have hmembers : function.returnMembers = members :=
    function.returnMembers_eq_elim.trans <|
      congrArg (Option.elim · [] DeclaredType.members)
        (isFrom_of_mem_functionsOf hfunction).returnDeclaration
  have hsites : function.sites conventions = sites := by
    rw [ScannedFunction.sites, ScannedFunction.consideredMembers, hparam, hmember, hmembers]
    simp only [sites, Bool.or_eq_true]
    by_cases hnone : returned.isVoid ∨ conventions.isHttpResponse returned
    · rw [if_pos hnone, if_pos hnone]
      rfl
    · rw [if_neg hnone, if_neg hnone]
      rfl
  have hattributes : attributes = function.siteAttributes conventions := by
    rw [ScannedFunction.siteAttributes, hsites]
  rw [hattributes]
  constructor
  · rw [function.filter_declared_classify catalog conventions]
    exact function.flatMap_sites conventions fun site ↦ site.binding? catalog
  · rw [show found.legacy = function.legacyAttributes catalog conventions from rfl,
      function.legacyAttributes_eq_flatMap catalog conventions]
    exact function.flatMap_sites conventions fun site ↦ site.legacy? catalog

namespace OrderResult

/-- The catalog of a queue, of blobs and of an attribute that is legacy. -/
def catalog : Catalog where
  specs := .ofList
    [("Queue", ⟨"Queue", "queue", .output, [], []⟩),
     ("QueueTrigger", ⟨"QueueTrigger", "queueTrigger", .trigger, [], []⟩),
     ("BlobOutput", ⟨"BlobOutput", "blob", .output, [], []⟩)]
  legacy := ["Table"]

/-- A method with a trigger on its parameter, of a type with an output on a member. -/
def method : Method :=
  (((Method.of "Run" (.named "Result" [])).annotated
      ((Attribute.named "Function").withArgument (.string "Orders"))).annotated
        (.named "Queue")).withParam
    (((Parameter.of "order" (.named "System.String" [])).annotated
      (.named "QueueTrigger")).annotated (.named "Table"))

/-- The type that owns the method. -/
def owner : DeclaredType := (DeclaredType.of "Orders").withMethod method

/-- The return type of the method; one member is a response. -/
def result : DeclaredType :=
  ((DeclaredType.of "Result").withMember
    ((Member.of "Response" (.named "HttpResponseData" [])).annotated (.named "Table"))).withMember
    ((Member.of "Copy" (.array (.named "System.Byte" []))).annotated (.named "BlobOutput"))

/-- The program of the method. -/
def program : Program := ((Program.of "Shop").withType owner).withType result

/-- The function of the program. -/
def function : ScannedFunction := ⟨"Orders", "Shop.Orders.Run", owner, method, some result⟩

/-- The member that is a response is passed over, with its attribute. -/
theorem classify_sites_result :
    function ∈ functionsOf (program.scanOutcomes .standard) ∧
    (function.classify catalog .standard).bindings.filter (!·.isHttpResponse) =
      [.declared "$return" .method none (.named "Queue") ⟨"Queue", "queue", .output, [], []⟩,
       .declared "order" .parameter (some .string) (.named "QueueTrigger")
         ⟨"QueueTrigger", "queueTrigger", .trigger, [], []⟩,
       .declared "Copy" .member (some .binary) (.named "BlobOutput")
         ⟨"BlobOutput", "blob", .output, [], []⟩] ∧
    (function.classify catalog .standard).legacy = [(.named "Table", "order")] := by
  have hfunctions : functionsOf (program.scanOutcomes .standard) = [function] := rfl
  have hfunction : function ∈ functionsOf (program.scanOutcomes .standard) :=
    hfunctions ▸ List.mem_singleton_self function
  obtain ⟨hbindings, hlegacy⟩ := classify_sites hfunction catalog
  exact ⟨hfunction, hbindings.trans rfl, hlegacy.trans rfl⟩

end OrderResult

end FunctionBindings
