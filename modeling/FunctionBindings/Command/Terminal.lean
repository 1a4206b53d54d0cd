import FunctionBindings.Diagnostic
import FunctionBindings.Files.Disk

/-!
# Terminals

A command prints its results and reports everything else. How a diagnostic is drawn into an excerpt
of its source is left to the terminal, which may fail to do so. A `Session` is what a command works
on, as a value: a disk, a terminal, and what has been printed and reported so far.
-/

namespace FunctionBindings

/-- The operations on a terminal. -/
class Terminal (m : Type → Type) where
  /-- Write to the standard output. -/
  print : String → m Unit
  /-- Write to the standard error output. -/
  report : String → m Unit
  /-- Report a diagnostic in an excerpt of the source text that it points into, if this can be
  done. -/
  reportExcerpt : Diagnostic → String → m Bool

/-- A disk, and a terminal with the texts that commands have written to it. -/
structure Session where
  disk : Disk
  /-- The excerpt of a source text that the terminal shows for a diagnostic, if it shows one. -/
  excerpt? : Diagnostic → String → Option String
  printed : String
  reported : String
  deriving Inhabited

namespace Session

/-- The session on a disk in which nothing has been written, on a terminal without excerpts. -/
def start (disk : Disk) : Session := ⟨disk, fun _ _ ↦ none, "", ""⟩

/-- The operations on the disk of a session. -/
instance : Files (StateM Session) where
  readFile path := do return (← get).disk.read path
  writeFile path text := do
    match (← get).disk.write path text with
    | .ok disk => do
        modify fun session ↦ { session with disk }
        return .ok ()
    | .error error => return .error error
  isDirectory path := do return (← get).disk.isDirectory path
  isFile path := do return (← get).disk.isFile path

/-- The operations on the terminal of a session. -/
instance : Terminal (StateM Session) where
  print text := modify fun session ↦ { session with printed := session.printed ++ text }
  report text := modify fun session ↦ { session with reported := session.reported ++ text }
  reportExcerpt diagnostic source := do
    match (← get).excerpt? diagnostic source with
    | some text => do
        modify fun session ↦ { session with reported := session.reported ++ text }
        return true
    | none => return false

end Session

end FunctionBindings
