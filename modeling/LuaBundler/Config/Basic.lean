import LuaBundler.Duration
import LuaBundler.Environment
import LuaBundler.Path

/-!
# Settings

The settings of a job: where modules are searched, where the bundle goes, how long the worker may
take, and which programs are used. What is left out has a default, which the functions at the end
give.
-/

namespace LuaBundler

/-- The program that makes a bundle; without one it is the built-in worker. -/
structure WorkerSettings where
  program : Option Path := none
  args : List String := []
  deriving Repr, DecidableEq

/-- The settings of a job. -/
structure Config where
  /-- The search roots in order; none stands for the project directory alone. -/
  src : List Path := []
  /-- Where the runtime modules are, and where a bundle is deployed. -/
  deployDir : Option Path := none
  outputDir : Option Path := none
  outputName : Option String := none
  timeoutMs : Nat := 30000
  /-- How long a worker may take to end after it was asked to. -/
  graceMs : Nat := 2000
  validateSyntax : Bool := true
  /-- The compiler of the syntax check. -/
  luac : Option Path := none
  worker : WorkerSettings := {}
  deriving Repr, DecidableEq

namespace Config

/-- The name of the settings file of a project. -/
def fileName : Path := ⟨"moonpack.toml"⟩

/-- The name of the file whose text names the bundle. -/
def titleFileName : Path := ⟨"title.txt"⟩

/-- The name of a bundle that nothing names. -/
def defaultOutputName : String := "Main.lua"

/-- The directory in which the host looks for its modules. -/
def runtimeDirName : Path := ⟨"lua"⟩

/-! ### What the settings come to -/

/-- The search roots of a project. -/
def searchRoots (c : Config) (project : Path) : List Path :=
  match c.src with
  | [] => [project]
  | roots => roots

/-- Where the bundle of a project is written. -/
def outputDirOf (c : Config) (project : Path) : Path :=
  c.outputDir.getD (project.join ⟨"build"⟩)

/-- The name of the bundle. -/
def outputNameOr (c : Config) : String :=
  c.outputName.getD defaultOutputName

/-- How long the worker may take. -/
def timeout (c : Config) : Duration := .ofMillis c.timeoutMs

/-- How long the worker may take to end after it was asked to. -/
def grace (c : Config) : Duration := .ofMillis c.graceMs

/-- The data directory of a user: an absolute one that is named, or the usual one of the home. -/
def dataDir? (env : Environment) : Option Path :=
  match (env.get? "XDG_DATA_HOME").map Path.mk with
  | some dir => if dir.isAbsolute then some dir else home?
  | none => home?
where
  home? : Option Path :=
    (env.nonempty? "HOME").map fun home => Path.join ⟨home⟩ ⟨".local/share"⟩

/-- The runtime directory of an environment. -/
def defaultDeployDir? (env : Environment) : Option Path :=
  match env.nonempty? "LOCALAPPDATA" with
  | some dir => some (Path.join ⟨dir⟩ runtimeDirName)
  | none => (dataDir? env).map (·.join runtimeDirName)

/-- The runtime directory: the one of the settings, or that of the environment. -/
def deployDir? (c : Config) (env : Environment) : Option Path :=
  match c.deployDir with
  | some dir => some dir
  | none => defaultDeployDir? env

end Config

end LuaBundler
