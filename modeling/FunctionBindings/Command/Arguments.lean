import FunctionBindings.Command.Options

/-!
# Arguments of the command line

An argument that begins with two hyphens is a long option, perhaps with a value behind an equals
sign; one that begins with a single hyphen is a row of short options, the last of which may have its
value attached. Behind an argument of two hyphens all arguments are operands. A value in an argument
of its own may not look like an option. `Invocation.ofArguments` reads the arguments from left to
right and stops at the first that is wrong or asks for help.
-/

namespace FunctionBindings.Command

/-- What an argument looks like. -/
inductive Shape where
  | endOfOptions
  | long (name : String) (value : Option String)
  | short (letters : List Char)
  | operand (text : String)
  deriving DecidableEq, Repr

/-- The shape of an argument; a single hyphen is an operand. -/
def Shape.of (argument : String) : Shape :=
  match argument.toList with
  | ['-', '-'] => .endOfOptions
  | '-' :: '-' :: cs =>
      let value := match cs.dropWhile (· ≠ '=') with
        | [] => none
        | _ :: value => some (String.ofList value)
      .long (String.ofList (cs.takeWhile (· ≠ '='))) value
  | '-' :: c :: cs => .short (c :: cs)
  | _ => .operand argument

/-- What is wrong with the arguments. -/
inductive UsageError where
  | missingCommand
  | unknownCommand (name : String)
  | unknownOption (option : String)
  | unexpectedValue (option : String)
  | missingValue (option : String)
  | refusedOption (option : String) (refusal : Refusal)
  | emptyOperand
  | unexpectedOperand (text : String)
  | missingOperand (name : String)
  deriving DecidableEq, Repr, Inhabited

/-- The wording of a usage error. -/
def UsageError.message : UsageError → String
  | .missingCommand => "a command is required"
  | .unknownCommand name => "unrecognized command '" ++ name ++ "'"
  | .unknownOption option => "unexpected argument '" ++ option ++ "'"
  | .unexpectedValue option => "unexpected value for '" ++ option ++ "'"
  | .missingValue option => "a value is required for '" ++ option ++ "'"
  | .refusedOption option .repeated => "'" ++ option ++ "' cannot be used multiple times"
  | .refusedOption option .emptyValue => "a value is required for '" ++ option ++ "'"
  | .emptyOperand => "an operand must not be empty"
  | .unexpectedOperand text => "unexpected argument '" ++ text ++ "'"
  | .missingOperand name => "the required argument <" ++ name ++ "> was not provided"

/-- Why a level is not read to its end. -/
inductive Halt where
  | help
  | usage (error : UsageError)
  deriving DecidableEq, Repr, Inhabited

/-- What an option does, or why it is refused. -/
def apply (option : String) (effect : Given → Except Refusal Given) (given : Given) :
    Except Halt Given :=
  (effect given).mapError fun refusal ↦ .usage (.refusedOption option refusal)

/-- What has been given, and the option that waits for its value in the next argument. -/
abbrev Progress := Given × Option OptionSpec

/-- Read a long option. -/
def readLong (options : List OptionSpec) (name : String) (value : Option String) (given : Given) :
    Except Halt Progress :=
  let shown := "--" ++ name
  if name = "help" then
    match value with
    | none => .error .help
    | some _ => .error (.usage (.unexpectedValue shown))
  else
    match options.find? (·.long = name) with
    | none => .error (.usage (.unknownOption shown))
    | some option =>
        match option.effect, value with
        | .flag mark, none => (apply shown mark given).map (·, none)
        | .flag _, some _ => .error (.usage (.unexpectedValue shown))
        | .value _ enter, some value => (apply shown (enter value) given).map (·, none)
        | .value _ _, none => .ok (given, some option)

/-- Read a row of short options. -/
def readShort (options : List OptionSpec) : List Char → Given → Except Halt Progress
  | [], given => .ok (given, none)
  | letter :: rest, given =>
      let shown := "-" ++ String.ofList [letter]
      if letter = 'h' then .error .help
      else
        match options.find? (·.short = some letter) with
        | none => .error (.usage (.unknownOption shown))
        | some option =>
            match option.effect, rest with
            | .flag mark, rest =>
                match apply shown mark given with
                | .ok given => readShort options rest given
                | .error halt => .error halt
            | .value _ _, [] => .ok (given, some option)
            | .value _ enter, '=' :: value =>
                (apply shown (enter (String.ofList value)) given).map (·, none)
            | .value _ enter, value =>
                (apply shown (enter (String.ofList value)) given).map (·, none)

/-- Read one more operand. -/
def readOperand (operands : Operands) (text : String) (given : Given) : Except Halt Given :=
  if !operands.takes given then .error (.usage (.unexpectedOperand text))
  else if text.isEmpty then .error (.usage .emptyOperand)
  else .ok { given with operands := given.operands ++ [text] }

/-- Read an argument that stands where no value is due. -/
def readArgument (options : List OptionSpec) (operands : Operands) (argument : String)
    (given : Given) : Except Halt Progress :=
  match Shape.of argument with
  | .endOfOptions => .ok (given, none)
  | .long name value => readLong options name value given
  | .short letters => readShort options letters given
  | .operand text => (readOperand operands text given).map (·, none)

/-- Read the value that an option waits for. -/
def readValue (option : OptionSpec) (argument : String) (given : Given) : Except Halt Given :=
  let shown := "--" ++ option.long
  match Shape.of argument, option.effect with
  | .operand text, .value _ enter => apply shown (enter text) given
  | _, _ => .error (.usage (.missingValue shown))

/-- Read the arguments of a level. This gives the arguments that are left when a command begins. -/
def readLevel (options : List OptionSpec) (operands : Operands) :
    Progress → List String → Except Halt (Given × List String)
  | (given, none), [] => .ok (given, [])
  | (_, some option), [] => .error (.usage (.missingValue ("--" ++ option.long)))
  | (given, some option), argument :: rest =>
      match readValue option argument given with
      | .ok given => readLevel options operands (given, none) rest
      | .error halt => .error halt
  | (given, none), argument :: rest =>
      match Shape.of argument, operands with
      | .endOfOptions, operands =>
          (rest.foldlM (fun given text ↦ readOperand operands text given) given).map (·, [])
      | .operand _, .command => .ok (given, argument :: rest)
      | _, operands =>
          match readArgument options operands argument given with
          | .ok progress => readLevel options operands progress rest
          | .error halt => .error halt

end FunctionBindings.Command
