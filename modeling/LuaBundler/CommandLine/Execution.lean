import LuaBundler.CommandLine.Arguments
import LuaBundler.CommandLine.Output
import LuaBundler.Config.Load

/-!
# The commands

Four commands: make, write and deploy a bundle; check a project; print its dependency graph; and run
the built-in worker. A command ends with an exit code and has printed to its two streams; what it
printed before it failed stays printed.
-/

namespace LuaBundler.CommandLine

open Files Process

/-- Why a command fails. -/
inductive CommandError where
  | config (cause : Config.LoadError)
  | job (cause : JobError)
  | deploy (cause : DeployError)
  | noDeployDir
  | noSearchRoot (dir : Path)
  deriving Repr, DecidableEq

/-- The message of each cause, and what caused it. -/
def CommandError.chain : CommandError → List String
  | config cause => cause.chain
  | job cause => cause.chain
  | deploy cause => cause.chain
  | noDeployDir => ["Could not determine the user's home directory"]
  | noSearchRoot dir => ["Invalid --src " ++ dir.text]

/-- How a command ended: its exit code, what it printed, and the machine after it. -/
structure Ending where
  code : Nat
  stdout : String
  stderr : String
  machine : Machine

/-- A command that has printed a text and then failed or not. -/
structure Printed where
  stdout : String
  outcome : Except CommandError Unit
  machine : Machine

/-- A command that has printed a text. -/
def printed (m : Machine) (stdout : String) : Printed := ⟨stdout, .ok (), m⟩

/-- A command that fails, after having printed a text. -/
def failed (m : Machine) (stdout : String) (e : CommandError) : Printed := ⟨stdout, .error e, m⟩

/-! ### Settings and jobs -/

/-- The search roots that were given, made absolute. -/
def searchRoots (m : Machine) (dirs : List Path) : Except CommandError (List Path) :=
  dirs.mapM fun dir =>
    match dir.absolute? (Place.path m.cwd) with
    | some root => .ok root
    | none => .error (.noSearchRoot dir)

/-- The settings of a project with what was given. -/
def settings (m : Machine) (args : ProjectArguments) : Except CommandError Config := do
  match Config.load m args.project args.config with
  | .error e => .error (.config e)
  | .ok c =>
    let src ← searchRoots m args.src
    return { c with
      src := if src.isEmpty then c.src else src
      deployDir := args.deployDir.or c.deployDir
      timeoutMs := args.timeoutMs.getD c.timeoutMs
      validateSyntax := c.validateSyntax && !args.noValidate }

/-- The job of a project by settings. -/
def jobOf (m : Machine) (args : ProjectArguments) (config : Config) : Except CommandError Job :=
  match Job.ofConfig m args.project args.entry config with
  | .ok job => .ok job
  | .error e => .error (.job e)

/-- Where bundles are deployed, unless they are not. -/
def deployDirOf (m : Machine) (config : Config) (noDeploy : Bool) :
    Except CommandError (Option Path) :=
  if noDeploy then .ok none
  else match config.deployDir? m.env with
    | some dir => .ok (some dir)
    | none => .error .noDeployDir

/-! ### Commands -/

/-- Checks an entry file that stands alone, and deploys it. -/
def deploySingle (host : Host) (m : Machine) (job : Job) (deployDir : Option Path) : Printed :=
  match job.checkSingleFile host m with
  | (.error e, m) => failed m "" (.job e)
  | (.ok warnings, m) =>
    let stdout := warningLines warnings
    match deployDir with
    | none => printed m (stdout ++ line ("Single file " ++ job.entry ++ " checked, not deployed"))
    | some dir =>
      match Deploy.deploySingleFile m job.entryPath dir with
      | (.error e, m) => failed m stdout (.deploy e)
      | (.ok artifact, m) =>
        printed m (stdout ++ line ("Single file deployed to: " ++ artifactText artifact))

/-- Makes a bundle and publishes it. -/
def publishBundle (host : Host) (m : Machine) (job : Job) (target : Deploy.Target) : Printed :=
  match job.run host m with
  | (.error e, m) => failed m "" (.job e)
  | (.ok report, m) =>
    match Deploy.publish m report.bundle target with
    | (.error e, m) => failed m "" (.deploy e)
    | (.ok published, m) =>
      let deployed := match published.deployed with
        | some path => line ("Deployed to: " ++ path.text)
        | none => ""
      printed m (reportText job report ++ line ("Artifact: " ++ artifactText published.artifact) ++
        deployed)

/-- The command that makes, writes and deploys a bundle. -/
def bundle (host : Host) (m : Machine) (args : ProjectArguments) (outputDir : Option Path)
    (outputName : Option String) (noDeploy : Bool) : Printed :=
  let prepared : Except CommandError (Config × Job × Option Path) := do
    let config ← settings m args
    let config := { config with
      outputDir := outputDir.or config.outputDir
      outputName := outputName.or config.outputName }
    let job ← jobOf m args config
    return (config, job, ← deployDirOf m config noDeploy)
  match prepared with
  | .error e => failed m "" e
  | .ok (config, job, deployDir) =>
    if job.isSingleFile then deploySingle host m job deployDir
    else publishBundle host m job
      ⟨config.outputDirOf job.project, config.outputNameOr, deployDir⟩

/-- Makes a bundle without writing it, after a check that has printed a text. -/
def dryRun (host : Host) (m : Machine) (job : Job) (stdout : String) : Printed :=
  match { job with validateSyntax := false }.run host m with
  | (.error e, m) => failed m stdout (.job e)
  | (.ok report, m) =>
    printed m (stdout ++ reportText job report ++ line "Bundle check passed (nothing written)")

/-- The command that checks a project. -/
def check (host : Host) (m : Machine) (args : ProjectArguments) (alsoBundle : Bool) : Printed :=
  match settings m args >>= jobOf m args with
  | .error e => failed m "" e
  | .ok job =>
    if job.isSingleFile then
      match job.checkSingleFile host m with
      | (.error e, m) => failed m "" (.job e)
      | (.ok warnings, m) =>
        printed m (line ("Single file " ++ job.entry ++ " passed the check") ++
          warningLines warnings)
    else
      match job.check host m with
      | (.error e, m) => failed m "" (.job e)
      | (.ok analysis, m) =>
        if alsoBundle then dryRun host m job (analysisText analysis)
        else printed m (analysisText analysis)

/-- The command that prints the dependency graph of a project. -/
def graph (m : Machine) (args : ProjectArguments) : Printed :=
  match settings m args >>= jobOf m args with
  | .error e => failed m "" e
  | .ok job =>
    match job.analyze m with
    | .error e => failed m "" (.job e)
    | .ok analysis => printed m (graphText job.project analysis)

/-! ### Endings -/

/-- The ending of a command that printed and then failed or not. -/
def Printed.ending (p : Printed) : Ending :=
  match p.outcome with
  | .ok () => ⟨0, p.stdout, "", p.machine⟩
  | .error e => ⟨1, p.stdout, errorText e.chain, p.machine⟩

/-- The ending of the built-in worker: its report, and the diagnostic of a failure. -/
def workerEnding (m : Machine) (project : Path) (entry : String) : Ending :=
  let report := Worker.run m project entry
  let stderr := match report with
    | .failure diagnostic => line diagnostic
    | .success _ => ""
  ⟨report.exitCode, report.wire, stderr, m⟩

/-- Carries out a request. -/
def perform (host : Host) (m : Machine) : Request → Ending
  | .bundle args outputDir outputName noDeploy =>
    (bundle host m args outputDir outputName noDeploy).ending
  | .check args alsoBundle => (check host m args alsoBundle).ending
  | .graph args => (graph m args).ending
  | .worker project entry => workerEnding m project entry
  | .version => ⟨0, line (programName ++ " 0.3.0"), "", m⟩
  | .help topic => ⟨0, help topic, "", m⟩

/-- Runs the command line. -/
def run (host : Host) (m : Machine) (args : List String) : Ending :=
  match readRequest args with
  | .ok request => perform host m request
  | .error e => ⟨2, "", e.message, m⟩

end LuaBundler.CommandLine
