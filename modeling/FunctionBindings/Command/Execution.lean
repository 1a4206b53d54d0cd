import FunctionBindings.Command.Failure
import FunctionBindings.Command.Invocation
import FunctionBindings.Command.Terminal
import FunctionBindings.Generation.ProviderModule
import FunctionBindings.Generation.Report
import FunctionBindings.Settings.Layers

/-!
# Execution of commands

All commands generate the records of their models and report the diagnostics, those whose source can
be read next to the model with an excerpt of it. `generate` writes the artifact of a model without
errors, `check` says of each model in turn whether it has errors, and `list` prints the functions
that keep the rules even if others do not. Log messages, for which the settings give a level, are
left out.
-/

namespace FunctionBindings

namespace Command

/-- A name in a descriptor; a question mark if there is none. -/
def memberText (descriptor : Json) (key : String) : String :=
  ((descriptor.member? key).bind Json.string?).getD "?"

/-- A binding in columns: direction, type and name, with a mark on the return value. A text that is
no descriptor stands as it is. -/
def bindingLine (text : String) : String :=
  match Json.ofText text with
  | .error _ => text
  | .ok descriptor =>
      let name := memberText descriptor "name"
      padded 4 (memberText descriptor "direction") ++ " " ++
        padded 20 (memberText descriptor "type") ++ " " ++ name ++
        (if name = returnBindingName then " (return)" else "")

/-- A function with its bindings, each on a line. -/
def recordLines (record : FunctionRecord) : String :=
  "\n" ++ record.name ++ "  (" ++ record.entryPoint ++ ")\n" ++
    String.join (record.rawBindings.map fun text ↦ "  " ++ bindingLine text ++ "\n")

/-- The list of the functions of an assembly. -/
def listing (assembly : String) (records : List FunctionRecord) : String :=
  "Assembly: " ++ assembly ++ "\n" ++ String.join (records.map recordLines)

/-- What a check says of a model without errors. -/
def passedLine (model : String) (report : GenerationReport) : String :=
  "✓ " ++ model ++ " - " ++ Decimal.natString report.records.length ++ " functions (" ++
    Decimal.natString report.warnings.length ++ " warnings)\n"

/-- What a check says of a model with errors. -/
def failedLine (model : String) (report : GenerationReport) : String :=
  "✗ " ++ model ++ " - " ++ Decimal.natString report.errors.length ++ " errors\n"

section

variable {m : Type → Type} [Monad m] [Files m] [Terminal m]

/-- Read the model of a path. -/
def loadModel (path : String) : m (Except CommandError Program) := do
  match ← Files.readFile path with
  | .error error => return .error (.unreadableModel path error)
  | .ok text =>
      match Program.read.ofText text with
      | .error fault => return .error (.invalidModel path text fault)
      | .ok program => return .ok program

/-- The source text that a diagnostic points into, if its file can be read next to the model and its
place is known and lies in the text. -/
def readSource (model : String) (diagnostic : Diagnostic) : m (Option String) := do
  match diagnostic.location.file with
  | none => return none
  | some file =>
      if diagnostic.location.span.isUnknown then return none
      else
        match ← Files.readFile (Path.join (Path.parent model) file) with
        | .error _ => return none
        | .ok source => return if diagnostic.location.span.liesIn source then some source else none

/-- Report a diagnostic in an excerpt of its source, or else in plain lines. -/
def reportDiagnostic (model : String) (diagnostic : Diagnostic) : m Unit := do
  match ← readSource model diagnostic with
  | none => Terminal.report diagnostic.text
  | some source =>
      if ← Terminal.reportExcerpt diagnostic source then return ()
      else Terminal.report diagnostic.text

/-- Report diagnostics in order. -/
def reportDiagnostics (model : String) : List Diagnostic → m Unit
  | [] => return ()
  | diagnostic :: diagnostics => do
      reportDiagnostic model diagnostic
      reportDiagnostics model diagnostics

/-- Generate the records of a model and report the diagnostics. -/
def examine (options : GeneratorOptions) (path : String) :
    m (Except CommandError (Program × GenerationReport)) := do
  match ← loadModel path with
  | .error error => return .error error
  | .ok program =>
      let report := program.generate options
      reportDiagnostics path report.diagnostics
      return .ok (program, report)

/-- Write the artifact: to the standard output, into a directory, or to a file. -/
def writeRecords (output : Option String) (records : List FunctionRecord) (pretty : Bool) :
    m (Except CommandError Unit) := do
  match output with
  | none =>
      Terminal.print (artifactText records pretty ++ "\n")
      return .ok ()
  | some path =>
      if ← Files.isDirectory path then
        return ((← writeArtifact path records pretty).map fun _ ↦ ()).mapError .provider
      else
        return (← writeArtifactTo path records pretty).mapError .provider

/-- Write the provider module, if a path for it is given. -/
def writeModule (path : Option String) (records : List FunctionRecord) :
    m (Except CommandError Unit) := do
  match path with
  | none => return .ok ()
  | some path =>
      return (← Files.writeFile path (providerModule records)).mapError (.unwritableModule path)

/-- Write the artifact of a model, and the provider module if one is wanted. -/
def generateArtifact (options : GeneratorOptions) (model : String) (output : Option String)
    (pretty : Bool) (provider : Option String) : m (Except CommandError Unit) := do
  match ← examine options model with
  | .error error => return .error error
  | .ok (_, report) =>
      match report.result with
      | .error errors => return .error (.generationFailed errors.length)
      | .ok records =>
          match ← writeRecords output records pretty with
          | .error error => return .error error
          | .ok () => writeModule provider records

/-- Check a model; this says whether it passes. -/
def checkModel (options : GeneratorOptions) (model : String) : m Bool := do
  match ← examine options model with
  | .error error =>
      Terminal.report ("✗ " ++ error.message ++ "\n")
      return false
  | .ok (_, report) =>
      if report.isSuccess then
        Terminal.print (passedLine model report)
        return true
      else
        Terminal.report (failedLine model report)
        return false

/-- Check models in order; this gives the number of those that do not pass. -/
def countFailures (options : GeneratorOptions) : List String → m Nat
  | [] => return 0
  | model :: models => do
      let passes ← checkModel options model
      let failures ← countFailures options models
      return if passes then failures else failures + 1

/-- Check models. -/
def checkModels (options : GeneratorOptions) (models : List String) :
    m (Except CommandError Unit) := do
  match ← countFailures options models with
  | 0 => return .ok ()
  | failures => return .error (.modelsFailed failures)

/-- List the functions of a model. -/
def listFunctions (options : GeneratorOptions) (model : String) :
    m (Except CommandError Unit) := do
  match ← examine options model with
  | .error error => return .error error
  | .ok (program, report) =>
      Terminal.print (listing program.assembly report.records)
      match report.result with
      | .error errors => return .error (.generationFailed errors.length)
      | .ok _ => return .ok ()

/-- Execute a command. -/
def execute (options : GeneratorOptions) : Command → m (Except CommandError Unit)
  | .generate model output pretty provider =>
      generateArtifact options model output pretty provider
  | .check models => checkModels options models
  | .list model => listFunctions options model

end

end Command

/-- How the program ends. -/
inductive ExitStatus where
  | success
  | failure
  /-- The arguments are wrong. -/
  | usage
  deriving DecidableEq, Repr, Inhabited

/-- The code of an exit status. -/
def ExitStatus.code : ExitStatus → UInt32
  | .success => 0
  | .failure => 1
  | .usage => 2

namespace Invocation

/-- The settings with the options of an invocation, which are the topmost layer. -/
def adjust (invocation : Invocation) (settings : Settings) : Settings :=
  { logLevel := invocation.logLevel.getD settings.logLevel
    generator := { settings.generator with
      parallel := settings.generator.parallel && !invocation.serial } }

section

variable {m : Type → Type} [Monad m] [Files m] [Terminal m]

/-- Execute an invocation in an environment. -/
def execute (invocation : Invocation) (environment : List (String × String)) :
    m (Except CommandError Unit) := do
  match ← Settings.load invocation.config environment with
  | .error error => return .error (.settings error)
  | .ok settings => invocation.command.execute (invocation.adjust settings).generator

/-- Run the program with arguments in an environment. -/
def run (environment : List (String × String)) (arguments : List String) : m ExitStatus := do
  match ofArguments arguments with
  | .error (.help topic) =>
      Terminal.print (topic.text environment)
      return .success
  | .error (.usage error) =>
      Terminal.report ("error: " ++ error.message ++ "\n")
      return .usage
  | .ok invocation =>
      match ← invocation.execute environment with
      | .ok () => return .success
      | .error error =>
          Terminal.report ("Error: " ++ error.message ++ "\n")
          return .failure

end

end Invocation

end FunctionBindings
