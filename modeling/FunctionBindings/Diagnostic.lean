import FunctionBindings.Binding.Rules

/-!
# Diagnostics

Scan errors and check errors in one shape: code, severity, wording, the declaration they are about,
its place, and a hint how to mend them.
-/

namespace FunctionBindings

/-- How serious a diagnostic is. -/
inductive Severity where
  | error
  | warning
  deriving DecidableEq, Repr, Inhabited

/-- The written name of a severity. -/
def Severity.name : Severity → String
  | .error => "error"
  | .warning => "warning"

/-- Something to report to the user. -/
structure Diagnostic where
  code : String
  severity : Severity
  message : String
  /-- The declaration that it is about. -/
  declaration : String
  location : Location
  /-- How to mend it. -/
  help : Option String
  deriving DecidableEq, Repr, Inhabited

namespace Diagnostic

/-- True of a diagnostic that blocks a generation. -/
def isError (diagnostic : Diagnostic) : Bool := diagnostic.severity == .error

/-- A diagnostic in plain lines. -/
def text (diagnostic : Diagnostic) : String :=
  diagnostic.severity.name ++ "[" ++ diagnostic.code ++ "]: " ++ diagnostic.message ++
    "\n  --> " ++ diagnostic.location.text ++ " (" ++ diagnostic.declaration ++ ")\n" ++
    match diagnostic.help with
    | some help => "  help: " ++ help ++ "\n"
    | none => ""

end Diagnostic

/-- The diagnostic of a check error: an error that does not block its function is a warning. -/
def CheckError.diagnostic (error : CheckError) : Diagnostic where
  code := error.code
  severity := if error.isHard then .error else .warning
  message := error.message
  declaration := error.function ++ " (" ++ error.owner ++ ")"
  location := error.location
  help := some error.help

/-- The diagnostic of a scan error. -/
def ScanError.diagnostic (error : ScanError) : Diagnostic where
  code := error.code
  severity := .error
  message := error.message
  declaration := error.declaration
  location := error.location
  help := some error.help

end FunctionBindings
