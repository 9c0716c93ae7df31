import LuaBundler.Bundle.Collect
import LuaBundler.Bundle.Report
import LuaBundler.Process.Basic

/-!
# Outcomes of a worker

A worker is run on a project directory and an entry file and writes its report to its standard
output. What it did comes to exactly one outcome (`interpret`): a success needs a success report and
the exit status 0; a failure report counts whatever the exit status is; and a worker that took too
long has timed out, whatever it wrote.
-/

namespace LuaBundler.Worker

open LuaBundler.Bundle Files Process Text

/-- A worker program, its leading arguments, and the variables set for it. -/
structure WorkerCommand where
  program : Program
  args : List String
  env : List (String × String) := []
  deriving Repr, DecidableEq

namespace WorkerCommand

/-- The worker of the settings; without a program it is the built-in one. -/
def ofSettings (program : Option String) (args : List String) : WorkerCommand :=
  match program with
  | some text => ⟨.named text, args, []⟩
  | none => ⟨.self, "worker" :: args, []⟩

/-- Sets one more variable. -/
def withVariable (w : WorkerCommand) (name value : String) : WorkerCommand :=
  { w with env := w.env ++ [(name, value)] }

/-- The worker as a command for a project directory and an entry file. -/
def command (w : WorkerCommand) (project : Path) (entry : String) (limit : Limit) : Command :=
  ⟨w.program, w.args ++ [project.text, entry], w.env, limit⟩

end WorkerCommand

/-- What a worker did. -/
inductive Outcome where
  | success (output : Output)
  /-- It took too long; `captured` is what it wrote to its error stream. -/
  | timedOut (limit : Duration) (captured : String)
  | failed (message : String)
  deriving Repr, DecidableEq

/-! ### Interpreting a run -/

/-- The number of bytes of worker output that a message quotes. -/
def quoteLimit : Nat := 4096

/-- The longest start of a text that has at most so many bytes. -/
def takeBytes : Nat → List Char → List Char
  | _, [] => []
  | limit, c :: cs => if c.utf8Size ≤ limit then c :: takeBytes (limit - c.utf8Size) cs else []

/-- Worker output as messages quote it: trimmed, and cut if it is long. -/
def quote (s : String) : String :=
  String.ofList (takeBytes quoteLimit (trim s.toList))

/-- What a worker that ended by itself did. -/
def interpretExit (status : ExitStatus) (stdout stderr : String) : Outcome :=
  match Report.read? stdout with
  | some (.success output) =>
    if status.isSuccess then .success output
    else .failed ("bundle worker reported success but exited with " ++ status.text)
  | some (.failure diagnostic) => .failed diagnostic
  | none =>
    if status.isSuccess then
      .failed ("Worker output is not a valid report: no report; worker wrote: " ++ quote stdout)
    else if trimmed stderr = "" then .failed ("bundle worker exited with " ++ status.text)
    else .failed ("bundle worker exited with " ++ status.text ++ ": " ++ quote stderr)

/-- What a worker did, by how it ended and what it wrote. -/
def interpret (limit : Duration) (exit : Exit) (stdout stderr : Bytes) : Outcome :=
  match exit with
  | .timedOut => .timedOut limit (lossyString stderr)
  | .waitFailed cause => .failed ("failed to wait for bundle worker: " ++ cause.message)
  | .exited status => interpretExit status (lossyString stdout) (lossyString stderr)

/-! ### Running a worker -/

/-- Runs a worker for a project directory and an entry file. -/
def launch (host : Host) (m : Machine) (w : WorkerCommand) (timeout grace : Duration)
    (project : Path) (entry : String) : Outcome × Machine :=
  match host.run m (w.command project entry (.terminate timeout grace)) with
  | .error cause =>
    (.failed ("failed to spawn bundle worker `" ++ w.program.text ++ "`: " ++ cause.message), m)
  | .ok run => (interpret timeout run.exit run.stdout run.stderr, { m with tree := run.tree })

/-! ### The built-in worker

The built-in worker goes to the project directory and collects the bundle of the entry file from
there. It searches by the templates of its environment, or the default ones, and reports the bundle
or why there is none. -/

/-- The variable that carries the search path of a worker. -/
def searchPathVariable : String := "MOONPACK_SEARCH_PATH"

/-- Collects a bundle and reports the outcome. -/
def reportBundle (m : Machine) (dir : Path) (templates : List String) (entry : String) : Report :=
  match collect m dir templates entry with
  | .ok document => .success (.structured document)
  | .error e => .failure e.message

/-- The templates that an environment gives. -/
def templatesIn (env : Environment) : List String :=
  match env.get? searchPathVariable with
  | some text => SearchPath.templatesOf text
  | none => SearchPath.defaultTemplates

/-- What the built-in worker reports for a project directory and an entry file. -/
def run (m : Machine) (project : Path) (entry : String) : Report :=
  match m.enter project with
  | .error e =>
    .failure ("Failed to enter project directory " ++ project.text ++ ": " ++ e.message)
  | .ok m => reportBundle m ⟨"."⟩ (templatesIn m.env) entry

end LuaBundler.Worker
