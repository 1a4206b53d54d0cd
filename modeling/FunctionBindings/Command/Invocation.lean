import FunctionBindings.Command.Arguments

/-!
# Invocations

The commands of the program with their arguments, and the texts that explain them.
-/

namespace FunctionBindings

/-- A command with its arguments. -/
inductive Command where
  /-- Write the artifact of a model. -/
  | generate (model : String) (output : Option String) (pretty : Bool) (provider : Option String)
  /-- Check models. -/
  | check (models : List String)
  /-- List the functions of a model. -/
  | list (model : String)
  deriving DecidableEq, Repr, Inhabited

/-- A command, and the options that all commands have. -/
structure Invocation where
  config : Option String
  logLevel : Option String
  serial : Bool
  command : Command
  deriving DecidableEq, Repr, Inhabited

namespace Command

/-- A command that the program knows. -/
structure Spec where
  name : String
  about : String
  options : List OptionSpec
  operands : Operands
  /-- The command for what was given, if no operand is missing. -/
  build : Given → Option Command

/-- The one operand of a command. -/
def model : Operands := .one "MODEL" "Declaration model (JSON)"

/-- The commands of the program. -/
def specs : List Spec :=
  [⟨"generate", "Generate the metadata artifact for a model", generateOptions, model, fun given ↦
      given.operands.head?.map fun path ↦
        .generate path given.output given.pretty given.provider⟩,
   ⟨"check", "Validate models and report diagnostics", commonOptions,
      .many "MODELS" "Declaration model(s)", fun given ↦ some (.check given.operands)⟩,
   ⟨"list", "List functions and their bindings", commonOptions, model, fun given ↦
      given.operands.head?.map .list⟩]

/-- What help is about. -/
inductive Topic where
  | program
  | command (spec : Spec)
  /-- The command that prints help. -/
  | help

/-- What the help command says about itself. -/
def helpAbout : String := "Print this message or the help of the given subcommand(s)"

/-- A text followed by blanks up to a width. -/
def padded (width : Nat) (text : String) : String :=
  text ++ String.ofList (List.replicate (width - text.length) ' ')

/-- Lines of two columns; the second begins two blanks behind the longest text of the first. -/
def columns (rows : List (String × String)) : String :=
  let width := rows.foldl (fun width row ↦ max width row.1.length) 0
  String.join (rows.map fun row ↦ "  " ++ padded width row.1 ++ "  " ++ row.2 ++ "\n")

/-- An option with its help. -/
def optionRow (environment : List (String × String)) (option : OptionSpec) : String × String :=
  let short := match option.short with
    | some letter => "-" ++ String.ofList [letter] ++ ", "
    | none => "    "
  let value := match option.effect with
    | .flag _ => ""
    | .value name _ => " <" ++ name ++ ">"
  let shownVariable := match option.variableName with
    | some name => " [env: " ++ name ++ "=" ++ (environment.lookup name).getD "" ++ "]"
    | none => ""
  (short ++ "--" ++ option.long ++ value, option.help ++ shownVariable)

/-- The help of options. -/
def optionsText (environment : List (String × String)) (options : List OptionSpec) : String :=
  "\nOptions:\n" ++
    columns (options.map (optionRow environment) ++ [("-h, --help", "Print help")])

/-- How operands are written, and their help. -/
def operandRow : Operands → String × String
  | .command => ("<COMMAND>", "")
  | .one name help => ("<" ++ name ++ ">", help)
  | .many name help => ("[" ++ name ++ "]...", help)

/-- The help of a topic. -/
def Topic.text (environment : List (String × String)) : Topic → String
  | .program =>
      "Extract function binding metadata from a declaration model\n\n" ++
      "Usage: bindmeta [OPTIONS] <COMMAND>\n\nCommands:\n" ++
      columns ((specs.map fun spec ↦ (spec.name, spec.about)) ++ [("help", helpAbout)]) ++
      optionsText environment commonOptions
  | .command spec =>
      let operand := operandRow spec.operands
      spec.about ++ "\n\nUsage: bindmeta " ++ spec.name ++ " [OPTIONS] " ++ operand.1 ++
      "\n\nArguments:\n" ++ columns [operand] ++ optionsText environment spec.options
  | .help =>
      helpAbout ++ "\n\nUsage: bindmeta help [COMMAND]...\n\nArguments:\n" ++
      columns [("[COMMAND]...", "Print help for the subcommand(s)")]

/-- Why there is nothing to execute. -/
inductive Stop where
  | help (topic : Topic)
  | usage (error : UsageError)

/-- A halted level stops the program, with help on the level's topic. -/
def Halt.stop (topic : Topic) : Halt → Stop
  | .help => .help topic
  | .usage error => .usage error

/-- The topic that the arguments of the help command name. -/
def topicOf : List String → Except Stop Topic
  | [] => .ok .program
  | [name] =>
      if name = "help" then .ok .help
      else match specs.find? (·.name = name) with
      | some spec => .ok (.command spec)
      | none => .error (.usage (.unknownCommand name))
  | _ :: name :: _ => .error (.usage (.unknownCommand name))

end Command

namespace Invocation

open Command

/-- The invocation of a command; its own options are stronger than those of the program. -/
def ofCommand (outer : Given) (spec : Spec) (arguments : List String) : Except Stop Invocation := do
  let (inner, _) ← (readLevel spec.options spec.operands (.nothing, none) arguments).mapError
    (Halt.stop (.command spec))
  match spec.build inner with
  | none => throw (.usage (.missingOperand (operandRow spec.operands).1))
  | some command =>
      return { config := inner.config.or outer.config
               logLevel := inner.logLevel.or outer.logLevel
               serial := outer.serial || inner.serial
               command }

/-- The invocation that arguments are. -/
def ofArguments (arguments : List String) : Except Stop Invocation := do
  let (outer, rest) ← (readLevel commonOptions .command (.nothing, none) arguments).mapError
    (Halt.stop .program)
  match rest with
  | [] => throw (.usage .missingCommand)
  | name :: rest =>
      if name = "help" then throw (.help (← topicOf rest))
      else match specs.find? (·.name = name) with
      | some spec => ofCommand outer spec rest
      | none => throw (.usage (.unknownCommand name))

end Invocation

end FunctionBindings
