import FunctionBindings.Model.Conventions
import FunctionBindings.Scan.TypeIndex

/-!
# Scanned functions

A method that carries the entry-point attribute is a candidate. A candidate becomes a function if
its attribute gives it a name, every type of its signature is resolved, and no earlier function has
its name; otherwise it becomes an error that says which of these fails.
-/

namespace FunctionBindings

/-- A function of a program: its name, its method, and what its return type declares. -/
structure ScannedFunction where
  /-- The name that the entry-point attribute gives. -/
  name : String
  /-- The names of the assembly, the owner and the method, joined by dots. -/
  entryPoint : String
  owner : DeclaredType
  method : Method
  /-- The declaration of the return type, if the program has it. -/
  returnDeclaration : Option DeclaredType
  deriving Inhabited

namespace ScannedFunction

/-- The members of the return type, as far as the program declares it. -/
def returnMembers (function : ScannedFunction) : List Member :=
  match function.returnDeclaration with
  | some declaration => declaration.members
  | none => []

/-- The place of the method in the file of its owner. -/
def location (function : ScannedFunction) : Location :=
  ⟨function.owner.file, function.method.span⟩

/-- A place in the file of the owner; an unknown place falls back to the method. -/
def locate (function : ScannedFunction) (span : Span) : Location :=
  ⟨function.owner.file, if span.isUnknown then function.method.span else span⟩

end ScannedFunction

/-- A part of a method's signature. -/
inductive SignaturePart where
  | parameter (name : String)
  | returnType
  deriving DecidableEq, Repr, Inhabited

/-- How messages name a part of a signature. -/
def SignaturePart.text : SignaturePart → String
  | .parameter name => "parameter '" ++ name ++ "'"
  | .returnType => "return type"

/-- Why a candidate is no function. -/
inductive ScanCause where
  /-- A type that the front-end could not resolve. -/
  | unresolvedType (part : SignaturePart) (text : String)
  /-- No name in the entry-point attribute. -/
  | missingFunctionName
  /-- A name that an earlier function has. -/
  | duplicateFunctionName (name firstEntryPoint : String)
  deriving DecidableEq, Repr, Inhabited

/-- A candidate that is no function. -/
structure ScanError where
  owner : String
  method : String
  location : Location
  cause : ScanCause
  deriving DecidableEq, Repr, Inhabited

namespace ScanError

/-- The code of an error. -/
def code (error : ScanError) : String :=
  match error.cause with
  | .unresolvedType _ _ => "E-SCAN-001"
  | .missingFunctionName => "E-SCAN-002"
  | .duplicateFunctionName _ _ => "E-SCAN-003"

/-- The owner and the method, joined by a dot. -/
def declaration (error : ScanError) : String := error.owner ++ "." ++ error.method

/-- The wording of an error. -/
def message (error : ScanError) : String :=
  match error.cause with
  | .unresolvedType part text =>
      "could not resolve type " ++ Text.ticked text ++ " of " ++ part.text ++ " in " ++
        Text.ticked error.declaration
  | .missingFunctionName =>
      "entry-point annotation on " ++ Text.ticked error.declaration ++ " has no function name"
  | .duplicateFunctionName name firstEntryPoint =>
      "function name " ++ Text.ticked name ++ " on " ++ Text.ticked error.declaration ++
        " is already used by " ++ Text.ticked firstEntryPoint

/-- How to mend an error. -/
def help (error : ScanError) : String :=
  match error.cause with
  | .unresolvedType _ _ => "fix the type so the program compiles before generating"
  | .missingFunctionName => "pass the function name as the first argument"
  | .duplicateFunctionName _ firstEntryPoint =>
      "rename this function or " ++ Text.ticked firstEntryPoint

end ScanError

end FunctionBindings
