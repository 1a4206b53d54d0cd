import FunctionBindings.Files.Path
import FunctionBindings.Table

/-!
# Files

Programs that work with files do so through the operations of `Files`, in any monad that has them. A
`Disk` is a file system as a value: the files and directories below a working directory. Its
operations follow a path segment by segment, and every segment but the last must name a directory.
-/

namespace FunctionBindings

/-- Why a file operation fails. -/
inductive FileError where
  | notFound
  | notDirectory
  | isDirectory
  /-- The bytes of a file are no text. -/
  | notText
  /-- Any other reason, in the words of the system. -/
  | other (text : String)
  deriving DecidableEq, Repr, Inhabited

/-- The wording of a file error. -/
def FileError.message : FileError → String
  | .notFound => "No such file or directory (os error 2)"
  | .notDirectory => "Not a directory (os error 20)"
  | .isDirectory => "Is a directory (os error 21)"
  | .notText => "stream did not contain valid UTF-8"
  | .other text => text

/-- The operations on files. -/
class Files (m : Type → Type) where
  readFile : String → m (Except FileError String)
  writeFile : String → String → m (Except FileError Unit)
  isDirectory : String → m Bool
  isFile : String → m Bool

/-- A file with its text, or a directory. -/
inductive Node where
  | file (text : String)
  | directory
  deriving DecidableEq, Repr, Inhabited

/-- The files and directories below the working directory, by the segments of their paths. -/
structure Disk where
  nodes : Table (List String) Node

namespace Disk

/-- The empty working directory. -/
def empty : Disk := ⟨∅⟩

instance : Inhabited Disk := ⟨empty⟩

/-- What stands at a place; the working directory itself is a directory. -/
def node? (disk : Disk) (place : List String) : Option Node :=
  if place.isEmpty then some .directory else disk.nodes.get? place

/-- The place that segments lead to from a place. -/
def follow (disk : Disk) : List String → List String → Except FileError (List String)
  | place, [] => .ok place
  | place, segment :: rest =>
      match disk.node? place with
      | none => .error .notFound
      | some (.file _) => .error .notDirectory
      | some .directory =>
          if segment = "." then follow disk place rest
          else if segment = ".." then follow disk place.dropLast rest
          else follow disk (place ++ [segment]) rest

/-- The place that a path names, whether or not anything stands there. -/
def resolve (disk : Disk) (path : String) : Except FileError (List String) :=
  if path.isEmpty then .error .notFound else disk.follow [] (Path.segments path)

/-- What a path names. -/
def find (disk : Disk) (path : String) : Except FileError Node :=
  match disk.resolve path with
  | .error error => .error error
  | .ok place =>
      match disk.node? place with
      | none => .error .notFound
      | some (.file text) =>
          if Path.endsWithSlash path then .error .notDirectory else .ok (.file text)
      | some .directory => .ok .directory

/-- The text of a file. -/
def read (disk : Disk) (path : String) : Except FileError String :=
  match disk.find path with
  | .error error => .error error
  | .ok .directory => .error .isDirectory
  | .ok (.file text) => .ok text

/-- The disk with a text written to a file. -/
def write (disk : Disk) (path text : String) : Except FileError Disk :=
  match disk.resolve path with
  | .error error => .error error
  | .ok place =>
      if disk.node? place = some .directory ∨ Path.endsWithSlash path then .error .isDirectory
      else .ok ⟨disk.nodes.insert place (.file text)⟩

/-- True of the path of a directory. -/
def isDirectory (disk : Disk) (path : String) : Bool :=
  match disk.find path with
  | .ok .directory => true
  | _ => false

/-- True of the path of a file. -/
def isFile (disk : Disk) (path : String) : Bool :=
  match disk.find path with
  | .ok (.file _) => true
  | _ => false

/-- The disk with directories along segments, as far as nothing else stands there. -/
def makeAlong (disk : Disk) : List String → List String → Disk
  | _, [] => disk
  | place, segment :: rest =>
      let next :=
        if segment = "." then place
        else if segment = ".." then place.dropLast
        else place ++ [segment]
      let grown := match disk.node? next with
        | some _ => disk
        | none => ⟨disk.nodes.insert next .directory⟩
      makeAlong grown next rest

/-- The disk with a directory at a path, and with those above it. -/
def makeDirectories (disk : Disk) (path : String) : Disk :=
  disk.makeAlong [] (Path.segments path)

/-- The operations on a disk that is the state of a computation. -/
instance : Files (StateM Disk) where
  readFile path := do return (← get).read path
  writeFile path text := do
    match (← get).write path text with
    | .ok disk => do
        set disk
        return .ok ()
    | .error error => return .error error
  isDirectory path := do return (← get).isDirectory path
  isFile path := do return (← get).isFile path

end Disk

end FunctionBindings
