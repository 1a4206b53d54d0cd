import FunctionBindings.Command.Execution

/-!
# The program

The command line on the files, the terminal and the environment of the system.
-/

namespace FunctionBindings

namespace Files

/-- The error of a file operation, by its code where that has a name of its own. -/
def errorOf (error : IO.Error) : FileError :=
  match error with
  | .noFileOrDirectory _ _ _ | .noSuchThing _ _ _ => .notFound
  | .inappropriateType _ 20 _ | .resourceExhausted _ 20 _ => .notDirectory
  | .inappropriateType _ 21 _ | .resourceExhausted _ 21 _ => .isDirectory
  | error => .other (toString error)

/-- The outcome of a file operation. -/
def attempt {α : Type} (operation : IO α) : IO (Except FileError α) := do
  match ← operation.toBaseIO with
  | .ok value => return .ok value
  | .error error => return .error (errorOf error)

/-- The text that bytes encode. -/
def textOf (bytes : ByteArray) : Except FileError String :=
  match String.fromUTF8? bytes with
  | some text => .ok text
  | none => .error .notText

/-- Read the first bytes of a file, which only a file has. -/
def probe (path : String) : IO (Except FileError ByteArray) :=
  attempt do
    let handle ← IO.FS.Handle.mk path .read
    handle.read 1

/-- The operations on the files of the system. -/
instance : Files IO where
  readFile path := return (← attempt (IO.FS.readBinFile path)).bind textOf
  writeFile path text := attempt (IO.FS.writeFile path text)
  isDirectory path := do
    match ← probe path with
    | .error .isDirectory => return true
    | _ => return false
  isFile path := do
    match ← probe path with
    | .ok _ => return true
    | .error _ => return false

end Files

/-- The terminal of the system, on which diagnostics are reported in plain lines only. -/
instance : Terminal IO where
  print := IO.print
  report := IO.eprint
  reportExcerpt _ _ := return false

/-- The parts of a text between zero characters. -/
def splitAtZeros : List Char → List (List Char)
  | [] => [[]]
  | c :: rest =>
      if c = '\x00' then [] :: splitAtZeros rest
      else match splitAtZeros rest with
      | [] => [[c]]
      | part :: parts => (c :: part) :: parts

/-- The variables that the text of an environment lists. -/
def variablesOf (text : String) : List (String × String) :=
  (splitAtZeros text.toList).filterMap fun entry ↦
    match entry.dropWhile (· ≠ '=') with
    | [] => none
    | _ :: value => some (String.ofList (entry.takeWhile (· ≠ '=')), String.ofList value)

/-- The variables of the environment of the system. -/
def systemVariables : IO (List (String × String)) := do
  match ← Files.readFile "/proc/self/environ" with
  | .ok text => return variablesOf text
  | .error _ => return []

end FunctionBindings

/-- Run the program. -/
def main (arguments : List String) : IO UInt32 := do
  let status ← FunctionBindings.Invocation.run (← FunctionBindings.systemVariables) arguments
  return status.code
