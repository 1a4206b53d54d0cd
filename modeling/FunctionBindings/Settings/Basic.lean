import FunctionBindings.Model.Conventions
import FunctionBindings.Settings.Fields

/-!
# Settings

What a user can set: the log level and the options of the generation.
-/

namespace FunctionBindings

/-- The settings of the program. -/
structure Settings where
  logLevel : String
  generator : GeneratorOptions
  deriving DecidableEq, Repr, Inhabited

/-- The settings that conventions give. -/
def Conventions.toSetting (conventions : Conventions) : Setting :=
  let texts (items : List String) : Setting := .list (items.map .text)
  .table
    [("language", .text conventions.language),
     ("script_file", match conventions.scriptFile with
       | some file => .text file
       | none => .absent),
     ("entry_point_annotation", .text conventions.entryPointAttribute),
     ("http_response_type", .text conventions.httpResponseType),
     ("string_types", texts conventions.stringTypes),
     ("binary_types", texts conventions.binaryTypes)]

/-- Read conventions. -/
def Conventions.ofSetting : Setting → Except SettingsError Conventions :=
  Setting.readFields .standard
    [.of "language" Setting.readText fun conventions language ↦ { conventions with language },
     .of "script_file" (Setting.readOption Setting.readText) fun conventions scriptFile ↦
       { conventions with scriptFile },
     .of "entry_point_annotation" Setting.readText fun conventions entryPointAttribute ↦
       { conventions with entryPointAttribute },
     .of "http_response_type" Setting.readText fun conventions httpResponseType ↦
       { conventions with httpResponseType },
     .of "string_types" Setting.readTexts fun conventions stringTypes ↦
       { conventions with stringTypes },
     .of "binary_types" Setting.readTexts fun conventions binaryTypes ↦
       { conventions with binaryTypes }]

/-- The settings that the options of a generation give. -/
def GeneratorOptions.toSetting (options : GeneratorOptions) : Setting :=
  .table
    [("conventions", options.conventions.toSetting),
     ("parallel", .flag options.parallel)]

/-- Read the options of a generation. -/
def GeneratorOptions.ofSetting : Setting → Except SettingsError GeneratorOptions :=
  Setting.readFields .standard
    [.of "conventions" Conventions.ofSetting fun options conventions ↦
       { options with conventions },
     .of "parallel" Setting.readFlag fun options parallel ↦ { options with parallel }]

namespace Settings

/-- The default settings. -/
def standard : Settings := ⟨"warn", .standard⟩

/-- The table of settings. -/
def toSetting (settings : Settings) : Setting :=
  .table
    [("log_level", .text settings.logLevel),
     ("generator", settings.generator.toSetting)]

/-- Read settings. -/
def ofSetting : Setting → Except SettingsError Settings :=
  Setting.readFields standard
    [.of "log_level" Setting.readText fun settings logLevel ↦ { settings with logLevel },
     .of "generator" GeneratorOptions.ofSetting fun settings generator ↦
       { settings with generator }]

end Settings

end FunctionBindings
