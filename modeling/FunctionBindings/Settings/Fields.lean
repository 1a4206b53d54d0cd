import FunctionBindings.Decimal.Layout
import FunctionBindings.Files.Disk
import FunctionBindings.Settings.Setting
import FunctionBindings.Text.Lowercase

/-!
# Typed settings

Scalars are converted into one another where a text, a flag or a number can stand for the value that
is wanted. Records are read from tables, in which unknown keys mean nothing and absent ones leave
the default, or from lists of their fields in order.
-/

namespace FunctionBindings

/-- What can be wrong with the settings. -/
inductive SettingsError where
  /-- A settings file that does not exist. -/
  | notFound (path : String)
  /-- A file whose ending names no known format. -/
  | unknownFormat (path : String)
  | unreadable (path : String) (error : FileError)
  /-- A file that is no TOML document. -/
  | malformed (path : String) (fault : Toml.Fault)
  /-- A value that cannot stand for what is wanted. -/
  | mismatch (expected : String)
  deriving Inhabited

/-- The wording of an error in the settings. -/
def SettingsError.message : SettingsError → String
  | .notFound path => "configuration file " ++ Text.literal path ++ " not found"
  | .unknownFormat path =>
      "configuration file " ++ Text.literal path ++ " is not of a registered file format"
  | .unreadable _ error => error.message
  | .malformed path fault => fault.message ++ " in " ++ path
  | .mismatch expected => "invalid type, expected " ++ expected

namespace Setting

/-- Read a text; flags and numbers are given by their texts. -/
def readText : Setting → Except SettingsError String
  | .text value => .ok value
  | .flag true => .ok "true"
  | .flag false => .ok "false"
  | .integer value => .ok (String.ofList (Decimal.intText value))
  | .float value => .ok (String.ofList (Decimal.plainText value))
  | _ => .error (.mismatch "a string")

/-- The flag that a text stands for, in any case. -/
def flagOfText? (text : String) : Option Bool :=
  let lower := Text.lowercaseText text
  if lower ∈ ["1", "true", "on", "yes"] then some true
  else if lower ∈ ["0", "false", "off", "no"] then some false
  else none

/-- Read a flag; of the numbers only zero stands for false. -/
def readFlag : Setting → Except SettingsError Bool
  | .flag value => .ok value
  | .integer value => .ok (value != 0)
  | .float value => .ok (value != 0)
  | .text written =>
      match flagOfText? written with
      | some value => .ok value
      | none => .error (.mismatch "a boolean")
  | _ => .error (.mismatch "a boolean")

/-- Read a value that may be absent. -/
def readOption {α : Type} (read : Setting → Except SettingsError α) :
    Setting → Except SettingsError (Option α)
  | .absent => .ok none
  | setting => (read setting).map some

/-- Read a list of texts. -/
def readTexts : Setting → Except SettingsError (List String)
  | .list items => items.mapM readText
  | _ => .error (.mismatch "a sequence")

/-- A field of a record: its key, and how its value enters the record. -/
structure Field (α : Type) where
  key : String
  read : Setting → α → Except SettingsError α

/-- A field whose value is read and entered with a setter. -/
def Field.of {α β : Type} (key : String) (read : Setting → Except SettingsError β)
    (set : α → β → α) : Field α :=
  ⟨key, fun setting record ↦ (read setting).map (set record)⟩

/-- Read the fields of a record that has the defaults. -/
def readFields {α : Type} (start : α) (fields : List (Field α)) :
    Setting → Except SettingsError α
  | .table members => fields.foldlM (fun record field ↦
      match Entries.get? field.key members with
      | some setting => field.read setting record
      | none => .ok record) start
  | .list items => (fields.zip items).foldlM (fun record entry ↦ entry.1.read entry.2 record) start
  | _ => .error (.mismatch "a table")

end Setting

end FunctionBindings
