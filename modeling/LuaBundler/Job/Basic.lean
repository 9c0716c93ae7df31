import LuaBundler.Config.Basic
import LuaBundler.Config.Entry
import LuaBundler.Job.Error
import LuaBundler.SearchPath
import LuaBundler.Worker.Outcome

/-!
# Jobs

A job describes one bundle: the project directory and its entry file, where modules are searched,
the runtime directory, and the programs and limits. It is made from settings for a project directory
that exists.

The worker gets the search roots as templates. Roots inside the project are written relative to it,
and the project's own templates come last unless one of the roots is the project, so stubs can
always be reached.
-/

namespace LuaBundler

open Files Text Worker

/-- One bundle to make. -/
structure Job where
  /-- The project directory; the worker runs there. -/
  project : Path
  /-- The entry file, relative to the project directory. -/
  entry : String
  roots : List Path
  runtime : Option Path
  timeout : Duration
  grace : Duration
  worker : WorkerCommand
  validateSyntax : Bool
  luac : Option Path
  deriving Repr, DecidableEq

namespace Job

/-- The path of the entry file. -/
def entryPath (job : Job) : Path :=
  job.project.join ⟨job.entry⟩

/-- Whether the entry file stands alone. -/
def isSingleFile (job : Job) : Bool :=
  Entry.isSingleFile job.entry

/-- The entry file that is named, or else the one that the project has. -/
def entryOf (m : Machine) (project : Path) (named : Option String) : Except JobError String :=
  match named.or (Entry.find? m project) with
  | some entry => .ok entry
  | none => .error (.noEntry project)

/-- The job of a project directory by its settings. -/
def ofConfig (m : Machine) (dir : Path) (named : Option String) (config : Config) :
    Except JobError Job := do
  if !m.isDir dir then .error (.config ("project directory " ++ dir.text ++ " does not exist"))
  else
    let project := m.normalize dir
    let entry ← entryOf m project named
    return {
      project
      entry
      roots := config.searchRoots project
      runtime := config.deployDir? m.env
      timeout := config.timeout
      grace := config.grace
      worker := .ofSettings (config.worker.program.map (·.text)) config.worker.args
      validateSyntax := config.validateSyntax
      luac := config.luac }

/-! ### The search path of the worker -/

/-- A root as the start of templates, with slashes for backslashes. A root that has the separator or
the mark of templates cannot be written. -/
def templateBase (root : Path) : Except JobError String :=
  if root.text.toList.any fun c => c = SearchPath.separator || c = SearchPath.mark then
    .error (.config ("search root " ++ root.text ++ " contains ';' or '?'"))
  else .ok (root.text.map fun c => if c = '\\' then '/' else c)

/-- The start of the templates of a normalized root, seen from the project. -/
def baseOf (project root : Path) : Except JobError String :=
  match root.relativeTo? project with
  | some rest =>
    if rest.text = "" then .ok "." else (templateBase rest).map fun base => "./" ++ base
  | none => templateBase root

/-- The two templates of a base. -/
def templatesOf (base : String) : List String :=
  [base ++ "/?.lua", base ++ "/?/init.lua"]

/-- Whether one of the roots is the project. -/
def coversProject (project : Path) (roots : List Path) : Bool :=
  roots.any fun root => (root.relativeTo? project).any fun rest => rest.text = ""

/-- The templates of a job. -/
def templates (job : Job) (m : Machine) : Except JobError (List String) := do
  let roots := job.roots.map m.normalize
  let bases ← roots.mapM (baseOf job.project)
  return bases.flatMap templatesOf ++
    if coversProject job.project roots then [] else SearchPath.defaultTemplates

/-- The templates of a job as one text. -/
def searchPath (job : Job) (m : Machine) : Except JobError String :=
  (job.templates m).map (String.intercalate ";")

end Job

end LuaBundler
