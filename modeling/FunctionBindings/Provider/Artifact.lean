import FunctionBindings.Files.Disk
import FunctionBindings.Model.Record

/-!
# Providers of records

A host gets its records from a provider: either one that has them in memory, or one that reads the
artifact in the directory of the function app.
-/

namespace FunctionBindings

/-- Why a provider or a registry fails. -/
inductive ProviderError where
  /-- A file cannot be read or written. -/
  | file (path : String) (error : FileError)
  /-- A file is no artifact. -/
  | artifact (path : String) (fault : Json.Fault)
  | alreadyRegistered (slot : String)
  | notRegistered (slot : String)
  deriving Inhabited

/-- The wording of a provider's error. -/
def ProviderError.message : ProviderError → String
  | .file path error => "IO error on " ++ path ++ ": " ++ error.message
  | .artifact path fault => "Invalid metadata artifact " ++ path ++ ": " ++ fault.message
  | .alreadyRegistered slot => "A provider is already registered for slot " ++ Text.ticked slot
  | .notRegistered slot => "No provider registered for slot " ++ Text.ticked slot

/-- The usual file name of the artifact. -/
def artifactFileName : String := "functions.metadata.json"

/-- A provider of records. -/
inductive MetadataProvider where
  /-- Records in memory. -/
  | fixed (records : List FunctionRecord)
  /-- The artifact with a file name in the directory of the function app. -/
  | artifact (fileName : String)
  deriving DecidableEq, Repr, Inhabited

section

variable {m : Type → Type} [Monad m] [Files m]

/-- Read the records of the artifact at a path. -/
def readArtifact (path : String) : m (Except ProviderError (List FunctionRecord)) := do
  match ← Files.readFile path with
  | .error error => return .error (.file path error)
  | .ok text =>
      match FunctionRecord.readAll.ofText text with
      | .ok records => return .ok records
      | .error fault => return .error (.artifact path fault)

/-- The records of a provider for a directory. -/
def MetadataProvider.records (directory : String) :
    MetadataProvider → m (Except ProviderError (List FunctionRecord))
  | .fixed records => return .ok records
  | .artifact fileName => readArtifact (Path.join directory fileName)

/-- Write records as the artifact at a path. -/
def writeArtifactTo (path : String) (records : List FunctionRecord) (pretty : Bool) :
    m (Except ProviderError Unit) := do
  match ← Files.writeFile path (artifactText records pretty) with
  | .ok () => return .ok ()
  | .error error => return .error (.file path error)

/-- Write records as the artifact in a directory; this gives its path. -/
def writeArtifact (directory : String) (records : List FunctionRecord) (pretty : Bool) :
    m (Except ProviderError String) := do
  let path := Path.join directory artifactFileName
  match ← writeArtifactTo path records pretty with
  | .ok () => return .ok path
  | .error error => return .error error

end

end FunctionBindings
