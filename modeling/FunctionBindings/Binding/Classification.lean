import FunctionBindings.Binding.Catalog
import FunctionBindings.Scan.Function

/-!
# Classification

The attributes of a function become its bindings in three passes: outputs on the method, all
bindings on its parameters, and the bindings that the return type carries. A return type that is an
HTTP response, or a member of one, is a binding without any attribute; a function with an HTTP
trigger whose return type carries no output responds with its return value.
-/

namespace FunctionBindings

/-- Where a binding was declared. -/
inductive BindingSource where
  /-- On the method. -/
  | method
  | parameter
  /-- On a member of the return type. -/
  | member
  /-- Nowhere: the types imply it. -/
  | synthesized
  deriving DecidableEq, Repr, Inhabited

/-- What a binding comes from. -/
inductive BindingOrigin where
  | declared (attr : Attribute) (spec : BindingSpec)
  | httpResponse
  deriving Inhabited

/-- A binding of a function. -/
structure Binding where
  name : String
  source : BindingSource
  origin : BindingOrigin
  direction : Direction
  dataType : Option DataType
  span : Span
  deriving Inhabited

namespace Binding

/-- True of a binding that no attribute declares. -/
def isHttpResponse (binding : Binding) : Bool :=
  match binding.origin with
  | .httpResponse => true
  | .declared _ _ => false

/-- The attribute that declares a binding. -/
def attribute? (binding : Binding) : Option Attribute :=
  match binding.origin with
  | .declared attr _ => some attr
  | .httpResponse => none

/-- The HTTP response that types imply. -/
def httpResponse (name : String) (span : Span) : Binding :=
  ⟨name, .synthesized, .httpResponse, .output, none, span⟩

/-- The binding that an attribute declares. -/
def declared (name : String) (source : BindingSource) (dataType : Option DataType)
    (attr : Attribute) (spec : BindingSpec) : Binding :=
  ⟨name, source, .declared attr spec, spec.direction, dataType, attr.span⟩

end Binding

/-- The bindings of a function, and what was met on the way. -/
structure Classification where
  bindings : List Binding
  hasHttpTrigger : Bool
  /-- The in-process attributes, each with the name of what it stands on. -/
  legacy : List (Attribute × String)
  deriving Inhabited

namespace Classification

/-- The bindings declared on the method. -/
def methodOutputs (classification : Classification) : List Binding :=
  classification.bindings.filter (·.source = .method)

/-- The HTTP responses that types imply. -/
def httpResponses (classification : Classification) : List Binding :=
  classification.bindings.filter (·.isHttpResponse)

end Classification

/-- The hint for a type: strings first, then bytes. -/
def Conventions.dataType? (conventions : Conventions) (type : TypeRef) : Option DataType :=
  if conventions.isString type then some .string
  else if conventions.isBinary type then some .binary
  else none

namespace Catalog

/-- The attributes that bind something, each with its spec. -/
def recognize (catalog : Catalog) (attributes : List Attribute) :
    List (Attribute × BindingSpec) :=
  attributes.filterMap fun attr ↦
    (catalog.lookup? attr.name).map fun spec ↦ (attr, spec)

/-- The in-process attributes, each with the name of what it stands on. -/
def legacyAmong (catalog : Catalog) (target : String) (attributes : List Attribute) :
    List (Attribute × String) :=
  (attributes.filter fun attr ↦ catalog.isLegacy attr.name).map (·, target)

end Catalog

namespace ScannedFunction

/-- The outputs declared on the method; other bindings mean nothing there. -/
def methodBindings (function : ScannedFunction) (catalog : Catalog) : List Binding :=
  ((catalog.recognize function.method.attributes).filter fun entry ↦
    entry.2.kind = .output).map fun entry ↦
      .declared returnBindingName .method none entry.1 entry.2

/-- The bindings declared on a parameter. -/
def bindingsOfParameter (catalog : Catalog) (conventions : Conventions) (param : Parameter) :
    List Binding :=
  (catalog.recognize param.attributes).map fun entry ↦
    .declared param.name .parameter (conventions.dataType? param.type) entry.1 entry.2

/-- The bindings declared on the parameters, in order. -/
def parameterBindings (function : ScannedFunction) (catalog : Catalog)
    (conventions : Conventions) : List Binding :=
  function.method.params.flatMap (bindingsOfParameter catalog conventions)

/-- True of a function with an HTTP trigger on a parameter. -/
def hasHttpTrigger (function : ScannedFunction) (catalog : Catalog) : Bool :=
  function.method.params.any fun param ↦
    (catalog.recognize param.attributes).any (·.2.isHttpTrigger)

/-- The bindings of a member of the return type: an HTTP response is one whatever its attributes. -/
def bindingsOfMember (catalog : Catalog) (conventions : Conventions) (member : Member) :
    List Binding :=
  if conventions.isHttpResponse member.type then [.httpResponse member.name member.span]
  else (catalog.recognize member.attributes).map fun entry ↦
    .declared member.name .member (conventions.dataType? member.type) entry.1 entry.2

/-- The members of the return type that are looked at: none if it is void or an HTTP response. -/
def consideredMembers (function : ScannedFunction) (conventions : Conventions) : List Member :=
  if function.method.returnType.isVoid || conventions.isHttpResponse function.method.returnType then
    []
  else function.returnMembers

/-- The bindings that the return type carries. -/
def returnBindings (function : ScannedFunction) (catalog : Catalog) (conventions : Conventions) :
    List Binding :=
  let response := Binding.httpResponse returnBindingName function.method.span
  if function.method.returnType.isVoid then []
  else if conventions.isHttpResponse function.method.returnType then [response]
  else
    let declared := function.returnMembers.flatMap (bindingsOfMember catalog conventions)
    if declared.any (·.direction = .output) then declared
    else if function.hasHttpTrigger catalog then declared ++ [response]
    else declared

/-- The in-process attributes on the method, the parameters and the members that are looked at. -/
def legacyAttributes (function : ScannedFunction) (catalog : Catalog)
    (conventions : Conventions) : List (Attribute × String) :=
  catalog.legacyAmong function.method.name function.method.attributes ++
  (function.method.params.flatMap fun param ↦
    catalog.legacyAmong param.name param.attributes) ++
  ((function.consideredMembers conventions).flatMap fun member ↦
    if conventions.isHttpResponse member.type then []
    else catalog.legacyAmong member.name member.attributes)

/-- The bindings of a function in pass order. -/
def classify (function : ScannedFunction) (catalog : Catalog) (conventions : Conventions) :
    Classification where
  bindings := function.methodBindings catalog ++ function.parameterBindings catalog conventions ++
    function.returnBindings catalog conventions
  hasHttpTrigger := function.hasHttpTrigger catalog
  legacy := function.legacyAttributes catalog conventions

end ScannedFunction

end FunctionBindings
