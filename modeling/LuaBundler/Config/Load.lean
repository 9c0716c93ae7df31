import LuaBundler.Config.Basic
import LuaBundler.Files.Machine
import LuaBundler.Text.Blank
import LuaBundler.Toml.Reader

/-!
# Loading settings

Settings come from a settings file, then from the title file of the project, then from the
environment, each adding to what came before. A settings file has to be read in full: a key that is
not known or a value of the wrong kind makes it unreadable. Relative paths in it start at its own
directory.
-/

namespace LuaBundler.Config

open Files Text Toml

/-- Why settings cannot be loaded. -/
inductive LoadError where
  | read (path : Path) (cause : FileError)
  /-- The file is not a settings text, or has a setting that is not one. -/
  | unreadable (path : Path)
  | timeout (given : String) (cause : NumberError)
  deriving Repr, DecidableEq

/-- The message of each cause, and what caused it. -/
def LoadError.chain : LoadError → List String
  | read path cause => ["Failed to read config file " ++ path.text, cause.message]
  | unreadable path => ["Failed to parse config file " ++ path.text, "TOML parse error"]
  | timeout given cause =>
    ["MOONPACK_TIMEOUT_MS must be milliseconds, got '" ++ given ++ "': " ++ cause.message]

/-! ### Reading a settings file -/

/-- A string. -/
def string? : Value → Option String
  | .string s => some s
  | _ => none

/-- A string as a path. -/
def path? (v : Value) : Option Path :=
  (string? v).map Path.mk

/-- A list of strings. -/
def strings? : Value → Option (List String)
  | .array items => items.mapM string?
  | _ => none

/-- A number of milliseconds. -/
def millis? : Value → Option Nat
  | .integer (.ofNat n) => if n < bound64 then some n else none
  | _ => none

/-- A truth value. -/
def bool? : Value → Option Bool
  | .bool b => some b
  | _ => none

/-- One setting of the worker. -/
def setWorker (w : WorkerSettings) : String × Value → Option WorkerSettings
  | ("program", v) => (path? v).map fun program => { w with program := some program }
  | ("args", v) => (strings? v).map fun args => { w with args }
  | _ => none

/-- The settings of the worker: a table, or a list of its settings in order. -/
def worker? : Value → Option WorkerSettings
  | .table _ members => members.foldlM setWorker {}
  | .array items => (["program", "args"].zip items).foldlM setWorker {}
  | _ => none

/-- One setting. -/
def setMember (c : Config) : String × Value → Option Config
  | ("src", v) => (strings? v).map fun src => { c with src := src.map Path.mk }
  | ("deploy-dir", v) => (path? v).map fun dir => { c with deployDir := some dir }
  | ("output-dir", v) => (path? v).map fun dir => { c with outputDir := some dir }
  | ("output-name", v) => (string? v).map fun name => { c with outputName := some name }
  | ("timeout-ms", v) => (millis? v).map fun timeoutMs => { c with timeoutMs }
  | ("grace-ms", v) => (millis? v).map fun graceMs => { c with graceMs }
  | ("validate-syntax", v) => (bool? v).map fun validateSyntax => { c with validateSyntax }
  | ("luac", v) => (path? v).map fun luac => { c with luac := some luac }
  | ("worker", v) => (worker? v).map fun worker => { c with worker }
  | _ => none

/-- The settings that a text gives. -/
def ofText? (s : String) : Option Config := do
  (← Toml.read? s).foldlM setMember {}

/-- A program is a path if it has more than one component; otherwise it is a name to look up. -/
def anchorProgram (base program : Path) : Path :=
  if 1 < program.components.length then base.join program else program

/-- Starts the relative paths of the settings at a directory. -/
def anchor (c : Config) (base : Path) : Config :=
  { c with
    src := c.src.map base.join
    deployDir := c.deployDir.map base.join
    outputDir := c.outputDir.map base.join
    luac := c.luac.map base.join
    worker := { c.worker with program := c.worker.program.map (anchorProgram base) } }

/-- The settings of a file. -/
def ofFile (m : Machine) (path : Path) : Except LoadError Config :=
  match m.readText path with
  | .error cause => .error (.read path cause)
  | .ok text =>
    match ofText? text with
    | none => .error (.unreadable path)
    | some c =>
      match path.parent? with
      | some base => .ok (c.anchor base)
      | none => .ok c

/-! ### The title file and the environment -/

/-- The title of a project; a file that is missing, blank or no text gives none. -/
def title? (m : Machine) (project : Path) : Option String :=
  match m.readText (project.join titleFileName) with
  | .ok text => some (trimmed text) |>.filter (· ≠ "")
  | .error _ => none

/-- The first of the variables that has a value. -/
def firstNonempty? (env : Environment) (names : List String) : Option String :=
  names.findSome? env.nonempty?

/-- The settings with the directories that an environment gives. -/
def withDirs (c : Config) (env : Environment) : Config :=
  { c with
    deployDir := ((firstNonempty? env ["MOONPACK_DEPLOY_DIR", "DEPLOY_DIR"]).map Path.mk).or
      c.deployDir
    outputDir := ((firstNonempty? env ["MOONPACK_OUTPUT_DIR", "BUNDLE_OUTPUT_DIR"]).map Path.mk).or
      c.outputDir }

/-- The settings with what an environment gives. The directories count even if the time limit is no
number. -/
def withEnvironment (c : Config) (env : Environment) : Except LoadError Unit × Config :=
  let c := c.withDirs env
  match env.nonempty? "MOONPACK_TIMEOUT_MS" with
  | none => (.ok (), c)
  | some given =>
    match readBelow bound64 (trimmed given) with
    | .ok timeoutMs => (.ok (), { c with timeoutMs })
    | .error cause => (.error (.timeout given cause), c)

/-- The settings of the file that is named, or else of the project if it has a settings file. -/
def ofProject (m : Machine) (project : Path) (named : Option Path) : Except LoadError Config :=
  match named with
  | some path => ofFile m path
  | none =>
    let path := project.join fileName
    if m.isFile path then ofFile m path else .ok {}

/-- The settings of a project. -/
def load (m : Machine) (project : Path) (named : Option Path) : Except LoadError Config := do
  let c ← ofProject m project named
  let c := { c with outputName := c.outputName.or (title? m project) }
  let (outcome, c) := c.withEnvironment m.env
  outcome
  return c

end LuaBundler.Config
