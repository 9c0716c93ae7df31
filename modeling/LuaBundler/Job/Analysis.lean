import LuaBundler.Graph.Basic
import LuaBundler.Job.Basic
import LuaBundler.Job.Warning

/-!
# Analyses

An analysis is the dependency graph of a job with what it says: the runtime modules, the cycle
groups, and warnings in the order cycles, dynamic requires, collisions. A check adds the syntax
check before it and fails if a require leads nowhere.
-/

namespace LuaBundler

open Files Process Syntax

/-- What is known of a job before anything is written. -/
structure Analysis where
  graph : Graph
  runtimeNames : List String
  cycleGroups : List (List Path)
  warnings : List Warning

namespace Job

/-! ### The graph -/

/-- The warnings of a graph and of the dynamic requires found with it. -/
def graphWarnings (built : BuiltGraph) : List Warning :=
  built.graph.cycles.map .cycle ++
  built.dynamic.map (fun site =>
    .dynamicRequire site.path site.require.line site.require.column site.require.expression) ++
  built.graph.caseCollisions.map fun (first, second) => .caseCollision first second

/-- The analysis of a graph. -/
def analysisOf (built : BuiltGraph) : Analysis :=
  { graph := built.graph
    runtimeNames := built.graph.runtimeNames
    cycleGroups := built.graph.cycleGroups
    warnings := graphWarnings built }

/-- Analyzes a job on the files as they are. -/
def analyze (job : Job) (m : Machine) : Except JobError Analysis :=
  match Graph.build m ⟨job.roots, job.runtime, []⟩ job.entryPath with
  | .ok built => .ok (analysisOf built)
  | .error e => .error (.graph e)

theorem analyze_eq_ok_iff {job : Job} {m : Machine} {analysis : Analysis} :
    job.analyze m = .ok analysis ↔
      ∃ built, Graph.build m ⟨job.roots, job.runtime, []⟩ job.entryPath = .ok built ∧
        analysisOf built = analysis := by
  unfold analyze
  split <;> simp_all

/-- Fails if a require of a graph leads nowhere. -/
def ensureResolved (g : Graph) : Except JobError Unit :=
  if g.unresolved = [] then .ok () else .error (.unresolved g.unresolved)

theorem ensureResolved_eq_ok_iff {g : Graph} : ensureResolved g = .ok () ↔ g.unresolved = [] := by
  simp [ensureResolved]

/-! ### Syntax -/

/-- A file or a project that does not pass, as an error of a job. -/
def ofValidation : ValidationError → JobError
  | .check cause => .check cause
  | .invalid file diagnostic => .validation file diagnostic

/-- Runs a syntax check if the job asks for one and there is a compiler. -/
def withCompiler {α : Type} (job : Job) (m : Machine)
    (validate : Compiler → Except ValidationError α × Machine) :
    Except JobError (List Warning) × Machine :=
  if job.validateSyntax then
    match Compiler.locate? m job.luac with
    | none => (.ok [.validatorUnavailable], m)
    | some compiler =>
      match validate compiler with
      | (.ok _, m) => (.ok [], m)
      | (.error e, m) => (.error (ofValidation e), m)
  else (.ok [], m)

/-- Checks the syntax of the project. -/
def validate (host : Host) (job : Job) (m : Machine) : Except JobError (List Warning) × Machine :=
  job.withCompiler m fun c => validateProject (c.check host) m job.project

/-- Checks the syntax of an entry file that stands alone. -/
def checkSingleFile (host : Host) (job : Job) (m : Machine) :
    Except JobError (List Warning) × Machine :=
  if m.isFile job.entryPath then
    job.withCompiler m fun c => validateFile (c.check host) m job.entryPath job.project
  else
    (.error (.config ("entry file " ++ job.entryPath.text ++ " does not exist")), m)

/-! ### Checks -/

/-- The analysis of a job in which every require leads somewhere. -/
def analyzeResolved (job : Job) (m : Machine) : Except JobError Analysis := do
  let analysis ← job.analyze m
  ensureResolved analysis.graph
  return analysis

/-- Checks a job: syntax first, then the analysis. -/
def check (host : Host) (job : Job) (m : Machine) : Except JobError Analysis × Machine :=
  match job.validate host m with
  | (.error e, m) => (.error e, m)
  | (.ok warnings, m) =>
    ((job.analyzeResolved m).map fun analysis =>
      { analysis with warnings := warnings ++ analysis.warnings }, m)

end Job

end LuaBundler
