import LuaBundler.CommandLine.Output

/-!
# The commands

What the command line offers: its commands, and for each of them its operands and options, with a
sentence about everything. How arguments are read and what help says both follow from this.

The texts of help say how the program and its commands are used. Arguments are listed in two
columns; if one column is so wide that a sentence does not fit beside it, all sentences of the list
stand on lines of their own.
-/

namespace LuaBundler.CommandLine

/-- The name that the program is called by. -/
def programName : String := "moonpack"

/-- What the program does. -/
def programSummary : String := "Bundle a Lua require tree into a single deployable file"

/-- A command. -/
inductive Command where
  | bundle
  | check
  | graph
  | worker
  | help
  deriving Repr, DecidableEq

/-- An argument that is known by its position. -/
structure Operand where
  name : String
  summary : String
  /-- Whether there may be any number of them, and none. -/
  isRepeated : Bool := false
  /-- Whether it is a path, which cannot be empty. -/
  isPath : Bool := false
  deriving Repr

/-- An argument that is known by its name. -/
structure Choice where
  name : String
  summary : String
  letter? : Option Char := none
  /-- What stands for its value, if it has one. -/
  value? : Option String := none
  /-- Whether it may be given more than once. -/
  isRepeated : Bool := false
  /-- Whether its value is a path, which cannot be empty. -/
  isPath : Bool := false
  deriving Repr

/-- The name of an argument as it is written. -/
def Choice.word (c : Choice) : String := "--" ++ c.name

/-! ### Options -/

/-- The option that makes the program say more. -/
def verboseChoice : Choice :=
  { name := "verbose", letter? := some 'v', isRepeated := true
    summary := "Increase log verbosity (-v info, -vv debug, -vvv trace)" }

/-- The option that asks for help. -/
def helpChoice : Choice :=
  { name := "help", letter? := some 'h', summary := "Print help" }

/-- The option that asks for the version. -/
def versionChoice : Choice :=
  { name := "version", letter? := some 'V', summary := "Print version" }

/-- The options that all commands on a project have. -/
def projectChoices : List Choice := [
  { name := "entry", value? := some "ENTRY"
    summary := "Entry module, relative to the project directory [default: Main.lua]" },
  verboseChoice,
  { name := "config", value? := some "CONFIG", isPath := true
    summary := "Config file [default: <project-dir>/moonpack.toml]" },
  { name := "src", value? := some "DIR", isRepeated := true, isPath := true
    summary := "Project search root; repeat to give several, in precedence order" },
  { name := "deploy-dir", value? := some "DEPLOY_DIR", isPath := true
    summary := "Runtime module directory, also the deployment target" },
  { name := "timeout-ms", value? := some "TIMEOUT_MS", summary := "Worker timeout in milliseconds" },
  { name := "no-validate", summary := "Skip the `luac -p` syntax check" }]

/-- The options about what a bundle becomes. -/
def bundleChoices : List Choice := [
  { name := "output-dir", value? := some "OUTPUT_DIR", isPath := true
    summary := "Directory the bundle is written to [default: <project-dir>/build]" },
  { name := "output-name", value? := some "OUTPUT_NAME"
    summary := "File name of the bundle [default: title.txt contents, or Main.lua]" },
  { name := "no-deploy", summary := "Write the artifact without copying it to the deploy directory" }]

/-! ### Operands -/

/-- The operand of all commands on a project. -/
def projectOperand : Operand :=
  { name := "PROJECT_DIR", summary := "Project directory containing the entry module", isPath := true }

namespace Command

/-- All commands. -/
def all : List Command := [bundle, check, graph, worker, help]

/-- The name of a command. -/
def name : Command → String
  | bundle => "bundle"
  | check => "check"
  | graph => "graph"
  | worker => "worker"
  | help => "help"

/-- The command of a name. -/
def ofName? (name : String) : Option Command :=
  all.find? (·.name == name)

/-- What a command does. -/
def summary : Command → String
  | bundle => "Bundle a project, write the artifact and deploy it"
  | check => "Syntax-check a project and verify that every require resolves"
  | graph => "Print the dependency tree of a project"
  | worker => "Run the bundling engine for one project (used by `bundle`)"
  | help => "Print this message or the help of the given subcommand(s)"

/-- Whether help on the program leaves a command out. -/
def isHidden : Command → Bool
  | worker => true
  | _ => false

/-- The operands of a command. -/
def operands : Command → List Operand
  | worker => [{ projectOperand with summary := "" }, { name := "ENTRY_FILE", summary := "" }]
  | help => [
    { name := "COMMAND", summary := "Print help for the subcommand(s)", isRepeated := true }]
  | _ => [projectOperand]

/-- The options of a command in the order of its help. -/
def choices : Command → List Choice
  | bundle => projectChoices ++ bundleChoices ++ [helpChoice]
  | check => projectChoices ++
      [{ name := "bundle", summary := "Also run a full bundle without writing any output" },
        helpChoice]
  | graph => projectChoices ++ [helpChoice]
  | worker => [verboseChoice, helpChoice]
  | help => []

/-- The option of a word. -/
def choice? (c : Command) (word : String) : Option Choice :=
  c.choices.find? (·.word == word)

theorem ofName?_name (c : Command) : ofName? c.name = some c := by
  cases c <;> rfl

end Command

end LuaBundler.CommandLine

/-! ### Help -/

namespace LuaBundler.CommandLine

namespace Help

/-! ### Arguments as they are written -/

/-- An operand as it is written in help. -/
def operandText (o : Operand) : String :=
  if o.isRepeated then "[" ++ o.name ++ "]..." else "<" ++ o.name ++ ">"

/-- The name of an option with what stands for its value. -/
def choiceText (c : Choice) : String :=
  match c.value? with
  | some value => c.word ++ " <" ++ value ++ ">"
  | none => if c.isRepeated then c.word ++ "..." else c.word

/-- The letter and the name of an option. -/
def choiceRow (c : Choice) : String :=
  match c.letter? with
  | some letter => "-" ++ String.singleton letter ++ ", " ++ choiceText c
  | none => "    " ++ choiceText c

/-! ### Lists -/

/-- A row of a list: what it is about, and a sentence. -/
abbrev Row := String × String

/-- The number of columns that help has room for. -/
def width : Nat := 100

/-- The width of the first column. -/
def firstColumn (rows : List Row) : Nat :=
  rows.foldl (fun n r => max n r.1.length) 0

/-- Whether a sentence does not fit beside a first column that is wide itself. -/
def isCrowded (rows : List Row) : Bool :=
  let taken := firstColumn rows + 12
  decide (40 < taken ∧ taken ≤ width) && rows.any fun r => width - taken < r.2.length

/-- A text with spaces after it up to a width. -/
def pad (n : Nat) (s : String) : String :=
  s ++ String.ofList (List.replicate (n - s.length) ' ')

/-- A list under a title. -/
def list (title : String) (rows : List Row) (mayBreak : Bool) : List String :=
  let breaks := mayBreak && isCrowded rows
  (title ++ ":") :: rows.flatMap fun r =>
    if breaks then ["  " ++ r.1, "          " ++ r.2]
    else ["  " ++ pad (firstColumn rows + 2) r.1 ++ r.2]

/-- The list of options. -/
def choiceList (cs : List Choice) : List String :=
  if cs.isEmpty then [] else list "Options" (cs.map fun c => (choiceRow c, c.summary)) true

/-- The list of operands. -/
def operandList (os : List Operand) : List String :=
  list "Arguments" (os.map fun o => (operandText o, o.summary)) true

/-- The list of commands. -/
def commandList : List String :=
  list "Commands" ((Command.all.filter (!·.isHidden)).map fun c => (c.name, c.summary)) false

/-- Parts with an empty line between them. -/
def paragraphs (parts : List (List String)) : String :=
  lines ([""].intercalate (parts.filter (· ≠ [])))

/-! ### Usage -/

/-- How a command is called, given the options that stand before its operands. -/
def usageLine (c : Command) (choices : List String) : String :=
  "Usage: " ++ " ".intercalate ([programName, c.name] ++ choices ++ c.operands.map operandText)

/-- How a command is called. -/
def usage (c : Command) : String :=
  usageLine c (if c.choices.isEmpty then [] else ["[OPTIONS]"])

/-- How a command is called with certain options. -/
def usageWith (c : Command) (choices : List Choice) : String :=
  usageLine c (choices.map choiceText)

/-- How the program is called. -/
def programUsage : String := "Usage: " ++ programName ++ " [OPTIONS] <COMMAND>"

/-- Help on a command. -/
def onCommand (c : Command) : String :=
  paragraphs [[c.summary], [usage c], operandList c.operands, choiceList c.choices]

/-- Help on the program. -/
def onProgram : String :=
  paragraphs [[programSummary], [programUsage], commandList,
    choiceList [verboseChoice, helpChoice, versionChoice]]

end Help

/-- Help on a command, or on the program. -/
def help : Option Command → String
  | some c => Help.onCommand c
  | none => Help.onProgram

end LuaBundler.CommandLine
