import LuaBundler.Job.Analysis
import LuaBundler.Stub
import LuaBundler.Worker.Outcome

/-!
# Running a job

A job is run in stages: the syntax check, the analysis, stubs for the runtime modules, the worker,
and stripping. A stage that fails ends the run. Whatever happened, the stubs are removed before the
outcome is given.
-/

namespace LuaBundler

open LuaBundler.Bundle Files Process Worker

/-! ### States

A job goes through its stages in one order, the validating stage optional. Cleaning up can be
reached from every stage that comes before it, and only from there is a job done; so a run that
reached the end has cleaned up exactly once (`JobState.not_leadsTo_cleaningUp`). -/

/-- A stage of a job. -/
inductive JobState where
  | created
  | validating
  | resolving
  | stubbing
  | bundling
  | postProcessing
  | cleaningUp
  | done
  deriving Repr, DecidableEq

namespace JobState

/-- The states in the order a job goes through them. -/
def all : List JobState :=
  [created, validating, resolving, stubbing, bundling, postProcessing, cleaningUp, done]

/-- How a state is written. -/
def text : JobState → String
  | created => "created"
  | validating => "validating"
  | resolving => "resolving"
  | stubbing => "stubbing"
  | bundling => "bundling"
  | postProcessing => "post-processing"
  | cleaningUp => "cleaning-up"
  | done => "done"

/-- The state that a text names. -/
def ofText? (s : String) : Option JobState :=
  all.find? fun state => state.text == s

/-- Whether a job may go from one state to the next. -/
def leadsTo : JobState → JobState → Bool
  | created, validating => true
  | created, resolving => true
  | validating, resolving => true
  | resolving, stubbing => true
  | stubbing, bundling => true
  | bundling, postProcessing => true
  | cleaningUp, done => true
  | cleaningUp, cleaningUp => false
  | done, cleaningUp => false
  | _, cleaningUp => true
  | _, _ => false

theorem ofText?_text (state : JobState) : ofText? state.text = some state := by
  cases state <;> decide +kernel

/-- After cleaning up a job is done and goes nowhere. -/
theorem not_leadsTo_cleaningUp {a b : JobState} (h : cleaningUp.leadsTo a = true) :
    a.leadsTo b = false := by
  cases a <;> cases b <;> simp_all [leadsTo]

end JobState

/-! ### Stages -/

/-- What a job hands back. -/
structure JobReport where
  entry : Path
  /-- The bundle without the runtime modules. -/
  bundle : String
  moduleCount : Nat
  stripped : List String
  cycleGroups : List (List Path)
  warnings : List Warning
  states : List JobState
  deriving Repr

/-- How far a job has come. -/
structure Progress where
  machine : Machine
  stubs : Stubs := .empty
  warnings : List Warning := []
  states : List JobState := [.created]

namespace Progress

/-- Enters a state. -/
def reach (p : Progress) (state : JobState) : Progress :=
  { p with states := p.states ++ [state] }

/-- Goes on with other files. -/
def onMachine (p : Progress) (m : Machine) : Progress :=
  { p with machine := m }

/-- Adds warnings. -/
def warn (p : Progress) (warnings : List Warning) : Progress :=
  { p with warnings := p.warnings ++ warnings }

end Progress

namespace Job

/-- The bundle that the worker of a job makes. -/
def makeBundle (host : Host) (job : Job) (m : Machine) : Except JobError Output × Machine :=
  match job.searchPath m with
  | .error e => (.error e, m)
  | .ok templates =>
    let worker := job.worker.withVariable searchPathVariable templates
    match launch host m worker job.timeout job.grace job.project job.entry with
    | (.success output, m) => (.ok output, m)
    | (.timedOut limit captured, m) =>
      (.error (.timeout limit job.project job.entry captured), m)
    | (.failed message, m) => (.error (.failed job.project job.entry message), m)

/-! ### Stages -/

/-- The last stages: the worker, and stripping. -/
def bundleStage (host : Host) (job : Job) (p : Progress) (analysis : Analysis) :
    Except JobError Stripped × Progress :=
  let p := p.reach .bundling
  match job.makeBundle host p.machine with
  | (.error e, m) => (.error e, p.onMachine m)
  | (.ok output, m) =>
    let p := (p.onMachine m).reach .postProcessing
    match output.strip analysis.runtimeNames with
    | .error e => (.error (.strip e), p)
    | .ok stripped => (.ok stripped, p)

/-- The stage of stubs. -/
def stubStage (job : Job) (p : Progress) (analysis : Analysis) : Progress :=
  let (warnings, m, stubs) := Stub.createAll p.machine p.stubs job.project analysis.runtimeNames
  { (p.reach .stubbing).warn warnings with machine := m, stubs }

/-- The stage of analysis and those after it. -/
def resolveStage (host : Host) (job : Job) (p : Progress) :
    Except JobError (Analysis × Stripped) × Progress :=
  let p := p.reach .resolving
  match job.analyze p.machine with
  | .error e => (.error e, p)
  | .ok analysis =>
    let p := p.warn analysis.warnings
    match ensureResolved analysis.graph with
    | .error e => (.error e, p)
    | .ok () =>
      match job.bundleStage host (job.stubStage p analysis) analysis with
      | (.error e, p) => (.error e, p)
      | (.ok stripped, p) => (.ok (analysis, stripped), p)

/-- All stages up to the stripped bundle. -/
def execute (host : Host) (job : Job) (m : Machine) :
    Except JobError (Analysis × Stripped) × Progress :=
  let p : Progress := { machine := m }
  let p := if job.validateSyntax then p.reach .validating else p
  match job.validate host p.machine with
  | (.error e, m) => (.error e, p.onMachine m)
  | (.ok warnings, m) => job.resolveStage host ((p.onMachine m).warn warnings)

/-- Removes the stubs. -/
def cleanUp (p : Progress) : Progress :=
  let p := p.reach .cleaningUp
  let (warnings, m) := p.stubs.cleanUp p.machine
  ((p.onMachine m).warn warnings).reach .done

/-- The report of a job that came to an end. -/
def reportOf (job : Job) (p : Progress) (analysis : Analysis) (stripped : Stripped) : JobReport :=
  { entry := job.entryPath
    bundle := stripped.text
    moduleCount := analysis.graph.nodes.length
    stripped := stripped.report.stripped
    cycleGroups := analysis.cycleGroups
    warnings := p.warnings ++ stripped.report.missing.map .missingRegistration
    states := p.states }

/-- Runs a job. -/
def run (host : Host) (job : Job) (m : Machine) : Except JobError JobReport × Machine :=
  let (outcome, p) := job.execute host m
  let p := cleanUp p
  (outcome.map fun (analysis, stripped) => job.reportOf p analysis stripped, p.machine)

end Job

end LuaBundler
