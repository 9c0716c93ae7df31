import LuaBundler.CommandLine.Command
import LuaBundler.Path
import LuaBundler.Text.Digits

/-!
# Arguments of the command line

A command is named first, then come its options and its operands in any order. An option with a
value takes the next argument, or what follows an equals sign; it may be given once, search roots
aside. After `--` every argument is an operand. Verbosity may be raised anywhere, and repeatedly.
Letters of options may share one argument.

Arguments are read from left to right. The first one that makes no sense is a usage error, and the
first one that asks for help or for the version ends the reading.
-/

namespace LuaBundler.CommandLine

open Text

/-- What all commands on a project take. -/
structure ProjectArguments where
  project : Path
  entry : Option String
  config : Option Path
  src : List Path
  deployDir : Option Path
  timeoutMs : Option Nat
  noValidate : Bool
  deriving Repr, DecidableEq

/-- A command with its arguments. -/
inductive Request where
  | bundle (project : ProjectArguments) (outputDir : Option Path) (outputName : Option String)
      (noDeploy : Bool)
  | check (project : ProjectArguments) (bundle : Bool)
  | graph (project : ProjectArguments)
  | worker (project : Path) (entry : String)
  | version
  /-- Help on a command, or on the program. -/
  | help (topic : Option Command)
  deriving Repr, DecidableEq

/-! ### Errors -/

/-- What is wrong with arguments. -/
inductive UsageError where
  /-- An argument that has no place, where a command has been named or not. -/
  | unexpected (command : Option Command) (arg : String)
  /-- An operand that a command lacks that was given options. -/
  | missing (operand : Operand) (command : Command) (given : List Choice)
  /-- A value that is empty or makes no sense. -/
  | badValue (name value : String)
  | repeated (name : String)
  | noValue (name : String)
  | noCommand
  deriving Repr

namespace UsageError

/-- How it goes on after the reason of a usage error. -/
def hint : String := "For more information, try '--help'."

/-- How arguments should be given instead. -/
def usageOf : Option Command → String
  | some c => Help.usage c
  | none => Help.programUsage

/-- The reason of a usage error, and the paragraphs about it. -/
def parts : UsageError → List String
  | unexpected command arg =>
    let tip := if command.isSome ∧ arg.startsWith "-" then
        ["  tip: to pass '" ++ arg ++ "' as a value, use '-- " ++ arg ++ "'"]
      else []
    ["unexpected argument '" ++ arg ++ "' found"] ++ tip ++ [usageOf command]
  | missing operand command given =>
    ["the following required arguments were not provided:\n  " ++ Help.operandText operand,
      Help.usageWith command given]
  | badValue name "" => ["a value is required for '" ++ name ++ "' but none was supplied"]
  | badValue name value => ["invalid value '" ++ value ++ "' for '" ++ name ++ "'"]
  | repeated name =>
    ["the argument '" ++ name ++ "' cannot be used multiple times"]
  | noValue name => ["a value is required for '" ++ name ++ "' but none was supplied"]
  | noCommand => ["'" ++ programName ++ "' requires a subcommand but one was not provided",
      Help.programUsage]

/-- The message of a usage error. -/
def message (e : UsageError) : String :=
  "error: " ++ "\n\n".intercalate (e.parts ++ [hint]) ++ "\n"

end UsageError

/-! ### What was given -/

/-- What was given: options with their values, flags, and operands, in order. -/
structure Given where
  values : List (String × String) := []
  flags : List String := []
  operands : List String := []
  deriving Repr

namespace Given

/-- The values of an option. -/
def all (g : Given) (name : String) : List String :=
  (g.values.filter fun v => v.1 == name).map (·.2)

/-- The value of an option. -/
def get? (g : Given) (name : String) : Option String :=
  (g.all name).head?

/-- The value of an option as a path. -/
def path? (g : Given) (name : String) : Option Path :=
  (g.get? name).map Path.mk

/-- Whether a flag was given. -/
def has (g : Given) (name : String) : Bool :=
  g.flags.contains name

/-- The time limit that was given. -/
def timeout? (g : Given) : Option Nat :=
  (g.get? "timeout-ms").bind fun value => (readBelow bound64 value).toOption

end Given

/-! ### Single arguments -/

/-- Whether an argument looks like an option. -/
def isOption (arg : String) : Bool :=
  match arg.toList with
  | '-' :: _ :: _ => true
  | _ => false

/-- An argument cut at its first equals sign. -/
def cutAtEquals (arg : String) : String × Option String :=
  match arg.toList.span (· ≠ '=') with
  | (name, _ :: value) => (String.ofList name, some (String.ofList value))
  | (_, []) => (arg, none)

/-- What an argument of letters of options asks for. -/
inductive Letters where
  | verbosity
  | help
  | version
  | unknown (letter : Char)
  deriving DecidableEq

/-- What letters of options ask for; the version can only be asked for where no command has been
named. -/
def Letters.ofChars (hasCommand : Bool) : List Char → Letters
  | [] => .verbosity
  | 'v' :: cs => Letters.ofChars hasCommand cs
  | 'h' :: _ => .help
  | 'V' :: _ => if hasCommand then .unknown 'V' else .version
  | c :: _ => .unknown c

/-- What an argument that looks like an option is. -/
inductive OptionWord where
  | letters (l : Letters)
  /-- A name without its dashes, and what follows an equals sign. -/
  | long (name : String) (value : Option String)

/-- What an argument that looks like an option is. -/
def OptionWord.ofArg (hasCommand : Bool) (arg : String) : OptionWord :=
  match arg.toList with
  | '-' :: '-' :: cs =>
    let (name, value) := cutAtEquals (String.ofList cs)
    .long name value
  | '-' :: cs => .letters (.ofChars hasCommand cs)
  | _ => .long arg none

/-! ### The arguments of a command -/

namespace Given

/-- Adds the value of an option, which has to make sense. -/
def addValue (g : Given) (c : Choice) (value : String) : Except UsageError Given :=
  if !c.isRepeated ∧ g.all c.name ≠ [] then .error (.repeated (Help.choiceText c))
  else if c.isPath ∧ value = "" then .error (.badValue (Help.choiceText c) "")
  else if c.name = "timeout-ms" ∧ (readBelow bound64 value).toOption.isNone then
    .error (.badValue (Help.choiceText c) value)
  else .ok { g with values := g.values ++ [(c.name, value)] }

/-- Adds a flag. -/
def addFlag (g : Given) (c : Choice) : Except UsageError Given :=
  if !c.isRepeated ∧ g.has c.name then .error (.repeated c.word)
  else .ok { g with flags := g.flags ++ [c.name] }

/-- Adds an operand, for which there has to be a place. -/
def addOperand (g : Given) (command : Command) (arg : String) : Except UsageError Given :=
  match command.operands[g.operands.length]? with
  | none => .error (.unexpected command arg)
  | some o =>
    if o.isPath ∧ arg = "" then .error (.badValue (Help.operandText o) "")
    else .ok { g with operands := g.operands ++ [arg] }

end Given

/-- Reads the arguments of a command; nothing is what they give if they ask for help. -/
def readArguments (command : Command) (g : Given) : List String → Except UsageError (Option Given)
  | [] => .ok (some g)
  | arg :: rest =>
    if arg = "--" then return some (← rest.foldlM (·.addOperand command ·) g)
    else if !isOption arg then do readArguments command (← g.addOperand command arg) rest
    else match OptionWord.ofArg true arg with
      | .letters .verbosity => do readArguments command (← g.addFlag verboseChoice) rest
      | .letters (.unknown c) => .error (.unexpected command ("-" ++ String.singleton c))
      | .letters _ => .ok none
      | .long name value =>
        match command.choices.find? (·.name == name), value, rest with
        | none, _, _ => .error (.unexpected command ("--" ++ name))
        | some c, value, rest =>
          if c.value?.isNone then
            if value.isSome then .error (.badValue c.word (value.getD ""))
            else if c.name = helpChoice.name then .ok none
            else do readArguments command (← g.addFlag c) rest
          else match value, rest with
            | some value, rest => do readArguments command (← g.addValue c value) rest
            | none, [] => .error (.noValue (Help.choiceText c))
            | none, next :: rest =>
              if isOption next then .error (.noValue (Help.choiceText c))
              else do readArguments command (← g.addValue c next) rest

/-- The options of a command that were given. -/
def Given.choices (g : Given) (command : Command) : List Choice :=
  command.choices.filter fun c => g.has c.name || g.all c.name ≠ []

/-- The first operand of a command that was not given. -/
def missing? (command : Command) (g : Given) : Option Operand :=
  command.operands[g.operands.length]?

/-- The arguments of a command on a project. -/
def projectArguments (g : Given) : ProjectArguments where
  project := ⟨g.operands.headD ""⟩
  entry := g.get? "entry"
  config := g.path? "config"
  src := (g.all "src").map Path.mk
  deployDir := g.path? "deploy-dir"
  timeoutMs := g.timeout?
  noValidate := g.has "no-validate"

/-- The request that a command makes with what was given. -/
def requestOf (command : Command) (g : Given) : Request :=
  match command with
  | .bundle =>
    .bundle (projectArguments g) (g.path? "output-dir") (g.get? "output-name") (g.has "no-deploy")
  | .check => .check (projectArguments g) (g.has "bundle")
  | .graph => .graph (projectArguments g)
  | .worker => .worker ⟨g.operands.headD ""⟩ (g.operands.getD 1 "")
  | .help => .help none

/-- The request that a command makes with its arguments. -/
def readCommand (command : Command) (args : List String) : Except UsageError Request := do
  match ← readArguments command {} args with
  | none => return .help command
  | some g =>
    match missing? command g with
    | some o => .error (.missing o command (g.choices command))
    | none => return requestOf command g

/-- The help that the arguments of the command for help ask for. -/
def readTopic : List String → Except UsageError Request
  | [] => .ok (.help none)
  | [name] =>
    match Command.ofName? name with
    | some c => .ok (.help c)
    | none => .error (.unexpected none name)
  | _ :: arg :: _ => .error (.unexpected none arg)

/-- The request that arguments make. -/
def readRequest : List String → Except UsageError Request
  | [] => .error .noCommand
  | arg :: rest =>
    if arg = "--" then .error .noCommand
    else if isOption arg then
      match OptionWord.ofArg false arg with
      | .letters .verbosity => readRequest rest
      | .letters .help => .ok (.help none)
      | .letters .version => .ok .version
      | .letters (.unknown c) => .error (.unexpected none ("-" ++ String.singleton c))
      | .long name (some _) => .error (.unexpected none ("--" ++ name))
      | .long name none =>
        if name = verboseChoice.name then readRequest rest
        else if name = helpChoice.name then .ok (.help none)
        else if name = versionChoice.name then .ok .version
        else .error (.unexpected none ("--" ++ name))
    else match Command.ofName? arg with
      | none => .error (.unexpected none arg)
      | some .help => readTopic rest
      | some command => readCommand command rest

end LuaBundler.CommandLine
