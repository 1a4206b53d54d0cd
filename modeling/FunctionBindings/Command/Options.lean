/-!
# Options of the command line

The arguments of the program and of each of its commands are options and operands. An option is a
flag or takes a value, and none may be given twice at one level; `Given` is what the arguments of
one level gave.
-/

namespace FunctionBindings.Command

/-- What the arguments of one level gave. -/
structure Given where
  config : Option String
  logLevel : Option String
  serial : Bool
  output : Option String
  provider : Option String
  pretty : Bool
  operands : List String
  deriving DecidableEq, Repr, Inhabited

/-- Nothing has been given. -/
def Given.nothing : Given := ⟨none, none, false, none, none, false, []⟩

/-- Why an option is refused. -/
inductive Refusal where
  | repeated
  | emptyValue
  deriving DecidableEq, Repr, Inhabited

/-- What an option does with what was given before. -/
inductive Effect where
  | flag (mark : Given → Except Refusal Given)
  | value (name : String) (enter : String → Given → Except Refusal Given)

/-- An option of a command. -/
structure OptionSpec where
  long : String
  short : Option Char
  help : String
  /-- The variable of the environment that can stand for the option. -/
  variableName : Option String
  effect : Effect

/-- Enter a value that has not been given yet. -/
def once (get : Given → Option String) (set : Given → String → Given) (value : String)
    (given : Given) : Except Refusal Given :=
  if (get given).isSome then .error .repeated else .ok (set given value)

/-- Enter a path that has not been given yet. -/
def oncePath (get : Given → Option String) (set : Given → String → Given) (value : String)
    (given : Given) : Except Refusal Given :=
  if value.isEmpty then .error .emptyValue else once get set value given

/-- Raise a flag that has not been raised yet. -/
def onceFlag (get : Given → Bool) (set : Given → Given) (given : Given) : Except Refusal Given :=
  if get given then .error .repeated else .ok (set given)

/-- The option that names a settings file. -/
def configOption : OptionSpec :=
  ⟨"config", none, "Configuration file (default: ./bindmeta.toml when present)", none,
    .value "CONFIG" (oncePath (·.config) fun given path ↦ { given with config := some path })⟩

/-- The option that sets the log level. -/
def logLevelOption : OptionSpec :=
  ⟨"log-level", none, "Default log filter when RUST_LOG is unset", some "BINDMETA_LOG",
    .value "LOG_LEVEL" (once (·.logLevel) fun given level ↦ { given with logLevel := some level })⟩

/-- The flag that turns parallel work off. -/
def serialOption : OptionSpec :=
  ⟨"serial", none, "Process functions on one thread", none,
    .flag (onceFlag (·.serial) fun given ↦ { given with serial := true })⟩

/-- The option that names the output. -/
def outputOption : OptionSpec :=
  ⟨"output", some 'o', "Output file or directory; stdout when omitted", none,
    .value "OUTPUT" (oncePath (·.output) fun given path ↦ { given with output := some path })⟩

/-- The flag that asks for pretty output. -/
def prettyOption : OptionSpec :=
  ⟨"pretty", some 'p', "Pretty print the output", none,
    .flag (onceFlag (·.pretty) fun given ↦ { given with pretty := true })⟩

/-- The option that names the file for a provider module. -/
def providerOption : OptionSpec :=
  ⟨"emit-provider", none, "Also write a Rust provider module to this path", none,
    .value "EMIT_PROVIDER"
      (oncePath (·.provider) fun given path ↦ { given with provider := some path })⟩

/-- The options of the program and of all its commands. -/
def commonOptions : List OptionSpec := [configOption, logLevelOption, serialOption]

/-- The options of the command `generate`. -/
def generateOptions : List OptionSpec :=
  [configOption, outputOption, logLevelOption, prettyOption, providerOption, serialOption]

/-- The operands of a level. -/
inductive Operands where
  /-- The first operand is a command, whose own arguments follow. -/
  | command
  | one (name help : String)
  | many (name help : String)
  deriving DecidableEq, Repr

/-- True of a level that takes one more operand. -/
def Operands.takes (operands : Operands) (given : Given) : Bool :=
  match operands with
  | .command => false
  | .one _ _ => given.operands.isEmpty
  | .many _ _ => true

end FunctionBindings.Command
