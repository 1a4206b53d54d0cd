import FunctionBindings.Settings.Basic
import FunctionBindings.Settings.Place
import FunctionBindings.Toml.Document

/-!
# Where settings come from

The layers of the settings are, from the lowest to the highest: the defaults, a settings file, and
the environment. A file that the user names must exist; the usual one may be absent. The variables
of the environment that matter have names that begin with `BINDMETA_`, in any case, and two
underscores in a name lead from a table to a key in it.
-/

namespace FunctionBindings.Settings

/-- The name of the usual settings file, without its ending. -/
def usualName : String := "bindmeta"

/-- The ending of settings files. -/
def fileEnding : String := "toml"

/-- What the names of variables with settings begin with, in lower case. -/
def variableStart : String := "bindmeta_"

/-- A text with every pair of underscores replaced by a point. -/
def pointed : List Char → List Char
  | '_' :: '_' :: rest => '.' :: pointed rest
  | c :: rest => c :: pointed rest
  | [] => []

/-- The place that a variable sets, if its name says that it is a setting. -/
def placeOfVariable? (name : String) : Option String :=
  let cs := (Text.lowercaseText name).toList
  if variableStart.toList.isPrefixOf cs then
    some (String.ofList (pointed (cs.drop variableStart.toList.length)))
  else none

/-- The texts that the variables of an environment set, by place. -/
def ofVariables (environment : List (String × String)) : Table String String :=
  Table.ofList (environment.filterMap fun entry ↦
    (placeOfVariable? entry.1).map fun place ↦ (place, entry.2))

/-- A layer with a value put in each of several places. -/
def overlay (layer : List (String × Setting)) (target : Setting) : Setting :=
  layer.foldl (fun target entry ↦ Setting.put (Setting.pathOf entry.1) entry.2 target) target

/-- The settings of the defaults, a file, and an environment. -/
def ofLayers (file : List (String × Setting)) (environment : List (String × String)) :
    Except SettingsError Settings :=
  let texts := (ofVariables environment).entries.map fun entry ↦ (entry.1, Setting.text entry.2)
  ofSetting (overlay texts (overlay file standard.toSetting))

section

variable {m : Type → Type} [Monad m] [Files m]

/-- The path of the settings file of a name: the file itself, if its ending is known, or else the
file with the ending added. -/
def findFile (name : String) : m (Except SettingsError String) := do
  if ← Files.isFile name then
    return if Path.extension? name = some fileEnding then .ok name else .error (.unknownFormat name)
  let completed := Path.addExtension name fileEnding
  if ← Files.isFile completed then return .ok completed
  return .error (.notFound name)

/-- The text of the settings file of a name, and its path. -/
def readFile (name : String) : m (Except SettingsError (String × String)) := do
  match ← findFile name with
  | .error error => return .error error
  | .ok path =>
      match ← Files.readFile path with
      | .error error => return .error (.unreadable path error)
      | .ok text => return .ok (path, text)

/-- The layer that a settings file is. -/
def layerOfText (path text : String) : Except SettingsError (List (String × Setting)) :=
  match Toml.ofText text with
  | .ok members => .ok (Setting.ofTomlMembers members)
  | .error fault => .error (.malformed path fault)

/-- The layer of the settings file: the one that the user names, or the usual one if there is one.
-/
def fileLayer (named : Option String) : m (Except SettingsError (List (String × Setting))) := do
  match named, ← readFile (named.getD usualName) with
  | _, .ok (path, text) => return layerOfText path text
  | some _, .error error => return .error error
  | none, .error _ => return .ok []

/-- Load the settings from all layers. -/
def load (named : Option String) (environment : List (String × String)) :
    m (Except SettingsError Settings) := do
  match ← fileLayer named with
  | .error error => return .error error
  | .ok file => return ofLayers file environment

end

end FunctionBindings.Settings
