import FunctionBindings.Provider.Artifact
import FunctionBindings.Settings.Fields

/-!
# Failures of commands

Why a command fails, in the words that the user sees.
-/

namespace FunctionBindings

namespace Text

/-- The characters behind the last line break. -/
def lastLine (cs : List Char) : List Char :=
  (cs.reverse.takeWhile (· ≠ '\n')).reverse

/-- The place of a text's end: its line, and the number of bytes before it in that line. -/
def endPlace (text : String) : String :=
  let cs := text.toList
  "line " ++ Decimal.natString (cs.count '\n' + 1) ++ " column " ++
    Decimal.natString (String.ofList (lastLine cs)).utf8ByteSize

end Text

/-- Why a command fails. -/
inductive CommandError where
  | settings (error : SettingsError)
  | unreadableModel (path : String) (error : FileError)
  /-- A file with a text that is no model. -/
  | invalidModel (path text : String) (fault : Json.Fault)
  | provider (error : ProviderError)
  | unwritableModule (path : String) (error : FileError)
  /-- A generation with errors. -/
  | generationFailed (errors : Nat)
  /-- Checks of which some failed. -/
  | modelsFailed (models : Nat)
  deriving Inhabited

namespace CommandError

/-- The wording of a fault in a text. Only for a text that ends early is the place told, which is
its end: documents do not keep the places of their parts, so that the line and the column of any
other fault are left out. -/
def faultText (text : String) (fault : Json.Fault) : String :=
  match fault.category with
  | .endOfText => fault.message ++ " at " ++ Text.endPlace text
  | _ => fault.message

/-- The wording of a failure. -/
def message : CommandError → String
  | .settings error => "configuration error: " ++ error.message
  | .unreadableModel path error => "cannot read " ++ path ++ ": " ++ error.message
  | .invalidModel path text fault =>
      "invalid declaration model " ++ path ++ ": " ++ faultText text fault
  | .provider error => error.message
  | .unwritableModule path error => "cannot write " ++ path ++ ": " ++ error.message
  | .generationFailed errors =>
      "generation failed with " ++ Decimal.natString errors ++ " error(s)"
  | .modelsFailed models => Decimal.natString models ++ " model(s) failed validation"

end CommandError

end FunctionBindings
