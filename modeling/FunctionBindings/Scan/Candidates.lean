import FunctionBindings.Scan.Function
import FunctionBindings.Text.Blank

/-!
# Scanning a program

Every candidate of a program, in traversal order, has one outcome: a function or an error
(`Program.scanOutcomes`). A scan succeeds if no outcome is an error.
-/

namespace FunctionBindings

/-- True of a method that carries the entry-point attribute. -/
def Method.isCandidate (conventions : Conventions) (method : Method) : Bool :=
  method.attributes.any fun attr ↦ conventions.isEntryPoint attr.name

/-- The name that the first entry-point attribute of a method gives: its first argument, if that is
a string that is not blank. -/
def Method.functionName? (conventions : Conventions) (method : Method) : Option String := do
  let attr ← method.attributes.find? fun a ↦ conventions.isEntryPoint a.name
  let argument ← attr.arguments.head?
  let name ← argument.string?
  if Text.isBlank name then none else some name

/-- The first parameter with an unresolved type, and that type. -/
def Method.unresolvedParameter? (method : Method) : Option (Parameter × TypeRef) :=
  method.params.findSome? fun param ↦ param.type.firstUnresolved?.map fun type ↦ (param, type)

/-- The outcome of a candidate on its own: whether its name and its types are given. -/
def resolveCandidate (assembly : String) (conventions : Conventions) (index : TypeIndex)
    (owner : DeclaredType) (method : Method) : Except ScanError ScannedFunction :=
  let refuse (span : Span) (cause : ScanCause) : Except ScanError ScannedFunction :=
    .error ⟨owner.name, method.name, ⟨owner.file, span⟩, cause⟩
  match method.functionName? conventions with
  | none => refuse method.span .missingFunctionName
  | some name =>
      match method.unresolvedParameter? with
      | some (param, type) =>
          refuse param.span (.unresolvedType (.parameter param.name) type.fullName)
      | none =>
          match method.returnType.firstUnresolved? with
          | some type => refuse method.span (.unresolvedType .returnType type.fullName)
          | none =>
              .ok
                { name
                  entryPoint := assembly ++ "." ++ owner.name ++ "." ++ method.name
                  owner
                  method
                  returnDeclaration := index.lookup? method.returnType }

/-- Refuse a function whose name is taken by an earlier one. -/
def refuseDuplicate (taken : Table String String) (function : ScannedFunction) :
    Except ScanError ScannedFunction :=
  match taken.get? function.name with
  | some first =>
      .error ⟨function.owner.name, function.method.name, function.location,
        .duplicateFunctionName function.name first⟩
  | none => .ok function

/-- The outcomes of candidates in order; `taken` maps the names of the functions so far to their
entry points. -/
def scanOutcomesFrom (assembly : String) (conventions : Conventions) (index : TypeIndex) :
    Table String String → List (DeclaredType × Method) → List (Except ScanError ScannedFunction)
  | _, [] => []
  | taken, (owner, method) :: rest =>
      match resolveCandidate assembly conventions index owner method with
      | .error error => .error error :: scanOutcomesFrom assembly conventions index taken rest
      | .ok function =>
          match refuseDuplicate taken function with
          | .error error => .error error :: scanOutcomesFrom assembly conventions index taken rest
          | .ok function =>
              .ok function :: scanOutcomesFrom assembly conventions index
                (taken.insert function.name function.entryPoint) rest

namespace Program

/-- The candidates of a program in traversal order, each with its owner. -/
def candidates (conventions : Conventions) (program : Program) :
    List (DeclaredType × Method) :=
  program.methods.filter fun entry ↦ entry.2.isCandidate conventions

/-- The outcome of every candidate of a program, in traversal order. -/
def scanOutcomes (program : Program) (conventions : Conventions) :
    List (Except ScanError ScannedFunction) :=
  scanOutcomesFrom program.assembly conventions (.ofTypes program.types) ∅
    (program.candidates conventions)

end Program

/-- The functions among outcomes. -/
def functionsOf (outcomes : List (Except ScanError ScannedFunction)) : List ScannedFunction :=
  outcomes.filterMap fun
    | .ok function => some function
    | .error _ => none

/-- The errors among outcomes. -/
def scanErrorsOf (outcomes : List (Except ScanError ScannedFunction)) : List ScanError :=
  outcomes.filterMap fun
    | .ok _ => none
    | .error error => some error

/-- The functions of a program if every candidate is one, and all errors otherwise. -/
def Program.scan (program : Program) (conventions : Conventions) :
    Except (List ScanError) (List ScannedFunction) :=
  let outcomes := program.scanOutcomes conventions
  match scanErrorsOf outcomes with
  | [] => .ok (functionsOf outcomes)
  | error :: errors => .error (error :: errors)

end FunctionBindings
