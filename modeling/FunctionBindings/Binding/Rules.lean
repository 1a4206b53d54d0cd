import FunctionBindings.Binding.Classification

/-!
# Rules for the bindings of a function

A function has at most one output on its method, at most one binding on a member of its return type
and at most one HTTP response; every attribute has a constructor for its arguments; and no two
bindings share a name, the return value apart. In-process attributes are reported but do not block a
function. Shared names are reported only if all other rules hold.
-/

namespace FunctionBindings

/-- What is wrong with the bindings of a function. -/
inductive CheckCause where
  | multipleMethodOutputs (attributes : List String)
  | multipleHttpResponses (bindings : List String)
  | malformedAttribute (attr target : String) (count : Nat) (arities : List Nat)
  | multipleMemberOutputs (member : String)
  | duplicateBindingName (name : String)
  /-- An in-process attribute, which does not block the function. -/
  | legacyBinding (attr target : String)
  deriving DecidableEq, Repr, Inhabited

/-- Something wrong with a function, and where. -/
structure CheckError where
  function : String
  owner : String
  location : Location
  cause : CheckCause
  deriving DecidableEq, Repr, Inhabited

namespace CheckError

/-- The code of an error. -/
def code (error : CheckError) : String :=
  match error.cause with
  | .multipleMethodOutputs _ => "E-BIND-001"
  | .multipleHttpResponses _ => "E-BIND-002"
  | .malformedAttribute _ _ _ _ => "E-BIND-003"
  | .multipleMemberOutputs _ => "E-BIND-004"
  | .duplicateBindingName _ => "E-BIND-005"
  | .legacyBinding _ _ => "W-BIND-001"

/-- True of an error that blocks its function. -/
def isHard (error : CheckError) : Bool :=
  match error.cause with
  | .legacyBinding _ _ => false
  | _ => true

/-- The wording of an error. -/
def message (error : CheckError) : String :=
  let function := Text.ticked error.function
  match error.cause with
  | .multipleMethodOutputs attributes =>
      "function " ++ function ++ " has multiple output binding annotations on the method: " ++
        ", ".intercalate attributes
  | .multipleHttpResponses bindings =>
      "function " ++ function ++ " declares more than one HTTP response binding: " ++
        ", ".intercalate bindings
  | .malformedAttribute attr target count arities =>
      "malformed annotation " ++ Text.ticked attr ++ " on " ++ Text.ticked target ++
        " in function " ++ function ++ ": " ++ Decimal.natString count ++
        " positional argument(s) match no constructor (accepted: " ++
        (if arities.isEmpty then "0" else ", ".intercalate (arities.map Decimal.natString)) ++ ")"
  | .multipleMemberOutputs member =>
      "return-type member " ++ Text.ticked member ++ " of function " ++ function ++
        " has more than one binding annotation"
  | .duplicateBindingName name =>
      "function " ++ function ++ " has more than one binding named " ++ Text.ticked name
  | .legacyBinding attr target =>
      Text.ticked attr ++ " on " ++ Text.ticked target ++ " in function " ++ function ++
        " is an in-process binding and is not supported"

/-- How to mend an error. -/
def help (error : CheckError) : String :=
  match error.cause with
  | .multipleMethodOutputs _ =>
      "return a type whose members carry the output annotations instead"
  | .multipleHttpResponses _ => "keep a single HTTP response value per function"
  | .malformedAttribute _ _ _ _ =>
      "pass the arguments of one of the annotation's constructors"
  | .multipleMemberOutputs member =>
      "split " ++ Text.ticked member ++ " into one member per output"
  | .duplicateBindingName name => "rename one of the " ++ Text.ticked name ++ " bindings"
  | .legacyBinding attr _ =>
      "replace " ++ Text.ticked attr ++
        " with its Microsoft.Azure.Functions.Worker equivalent"

end CheckError

/-- The bindings at which a name comes for the given time: each with `times - 1` earlier bindings of
its name. -/
def atOccurrence (times : Nat) : List Binding → List Binding → List Binding
  | _, [] => []
  | earlier, binding :: rest =>
      let later := atOccurrence times (earlier ++ [binding]) rest
      if (earlier.filter (·.name = binding.name)).length + 1 = times then binding :: later
      else later

/-- The bindings whose name an earlier binding has. -/
def repeated : List Binding → List Binding → List Binding
  | _, [] => []
  | earlier, binding :: rest =>
      let later := repeated (earlier ++ [binding]) rest
      if earlier.any (·.name = binding.name) then binding :: later else later

namespace ScannedFunction

/-- An error of a function at a place in its owner's file. -/
def error (function : ScannedFunction) (span : Span) (cause : CheckCause) : CheckError :=
  ⟨function.name, function.owner.name, function.locate span, cause⟩

/-- At most one output on the method. -/
def checkMethodOutputs (function : ScannedFunction) (classification : Classification) :
    List CheckError :=
  match classification.methodOutputs with
  | first :: second :: rest =>
      [function.error second.span (.multipleMethodOutputs
        ((first :: second :: rest).filterMap fun b ↦ b.attribute?.map (·.name)))]
  | _ => []

/-- At most one binding on a member of the return type; reported at the second. -/
def checkMemberOutputs (function : ScannedFunction) (classification : Classification) :
    List CheckError :=
  (atOccurrence 2 [] (classification.bindings.filter (·.source = .member))).map fun binding ↦
    function.error binding.span (.multipleMemberOutputs binding.name)

/-- At most one HTTP response. -/
def checkHttpResponses (function : ScannedFunction) (classification : Classification) :
    List CheckError :=
  match classification.httpResponses with
  | first :: second :: rest =>
      [function.error second.span
        (.multipleHttpResponses ((first :: second :: rest).map (·.name)))]
  | _ => []

/-- A constructor for the arguments of one binding's attribute. -/
def checkConstructor (function : ScannedFunction) (binding : Binding) : Option CheckError :=
  match binding.origin with
  | .httpResponse => none
  | .declared attr spec =>
      let count := attr.arguments.length
      match spec.constructorFor? count with
      | some _ => none
      | none =>
          some (function.error attr.span (.malformedAttribute attr.name binding.name
            count (spec.constructors.map List.length)))

/-- A constructor for the arguments of every attribute. -/
def checkConstructors (function : ScannedFunction) (classification : Classification) :
    List CheckError :=
  classification.bindings.filterMap function.checkConstructor

/-- A name of its own for every binding but those of the return value; reported at each later
binding of a name. -/
def checkUniqueNames (function : ScannedFunction) (classification : Classification) :
    List CheckError :=
  (repeated [] (classification.bindings.filter (·.name ≠ returnBindingName))).map fun binding ↦
    function.error binding.span (.duplicateBindingName binding.name)

/-- A warning for every in-process attribute. -/
def checkLegacy (function : ScannedFunction) (classification : Classification) :
    List CheckError :=
  classification.legacy.map fun entry ↦
    function.error entry.1.span (.legacyBinding entry.1.name entry.2)

/-- What all rules but that of unique names report. -/
def checkShape (function : ScannedFunction) (classification : Classification) :
    List CheckError :=
  function.checkMethodOutputs classification ++ function.checkMemberOutputs classification ++
    function.checkHttpResponses classification ++ function.checkConstructors classification

/-- What the rules report about a classification. -/
def validate (function : ScannedFunction) (classification : Classification) : List CheckError :=
  let shape := function.checkShape classification
  let names := if shape.isEmpty then function.checkUniqueNames classification else []
  shape ++ names ++ function.checkLegacy classification

end ScannedFunction

/-- A function whose bindings keep all rules. -/
structure CheckedFunction where
  function : ScannedFunction
  bindings : List Binding
  /-- What is wrong but does not block the function. -/
  warnings : List CheckError

/-- Classify a function and hold it to the rules. -/
def checkFunction (function : ScannedFunction) (catalog : Catalog) (conventions : Conventions) :
    Except (List CheckError) CheckedFunction :=
  let classification := function.classify catalog conventions
  let errors := function.validate classification
  if errors.any (·.isHard) then .error errors
  else .ok ⟨function, classification.bindings, errors⟩

end FunctionBindings
