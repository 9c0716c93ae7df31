import LuaBundler.Bundle.Strip
import LuaBundler.Duration
import LuaBundler.Graph.Build
import LuaBundler.Syntax.Compiler
import LuaBundler.Text.Blank

/-!
# Why a job fails

The causes that a job fails of, and how each is worded. A cause that has causes of its own is
written as a chain, the outermost message first.
-/

namespace LuaBundler

open Text

/-- Why a job fails. -/
inductive JobError where
  | unresolved (requires : List UnresolvedRequire)
  /-- The worker took too long; `captured` is what it wrote to its error stream. -/
  | timeout (limit : Duration) (project : Path) (entry captured : String)
  | failed (project : Path) (entry diagnostic : String)
  | validation (file : Path) (diagnostic : String)
  | strip (cause : Bundle.StripError)
  | config (text : String)
  | graph (cause : GraphError)
  | check (cause : Syntax.CheckError)
  | noEntry (project : Path)
  deriving Repr, DecidableEq

namespace JobError

/-- What a message says of the error stream of a worker that timed out. -/
def capturedNote (captured : String) : String :=
  if trimmed captured = "" then ""
  else "\nCaptured worker stderr before timeout:\n" ++ String.ofList (trimEnd captured.toList)

/-- What usually makes a worker time out. -/
def timeoutHint : String :=
  "\nThis usually indicates:\n" ++
  "  1. A cyclic require chain the bundling engine cannot settle\n" ++
  "  2. A malformed module that sends the engine into a loop\n" ++
  "  3. A worker process stuck on file I/O"

/-- What usually makes a bundle fail. -/
def failureHint : String :=
  "\nCommon causes: a require of a module missing from the project, a syntax error in a " ++
  "required module, or a runtime module that is not installed in the deploy directory"

/-- Where a job ran. -/
def site (project : Path) (entry : String) : String :=
  "(project_dir: " ++ project.text ++ ", entry: " ++ entry ++ ")"

/-- The message of each cause, and what caused it. -/
def chain : JobError → List String
  | unresolved requires =>
    ["cannot resolve " ++ String.intercalate ", " (requires.map (·.message))]
  | timeout limit project entry captured =>
    ["bundle operation timed out after " ++ limit.text ++ " " ++ site project entry ++ "." ++
      timeoutHint ++ capturedNote captured]
  | failed project entry diagnostic =>
    ["bundle failed " ++ site project entry ++ ": " ++ diagnostic ++ failureHint]
  | validation file diagnostic => ["syntax error in " ++ file.text ++ ": " ++ diagnostic]
  | strip cause => ["post-processing failed: " ++ cause.message, cause.message]
  | config text => ["invalid configuration: " ++ text]
  | graph cause => cause.chain
  | check cause => cause.chain
  | noEntry project => ["No Main.lua found in project directory " ++ project.text]

/-- The outermost message. -/
def message (e : JobError) : String :=
  e.chain.headD ""

end JobError

end LuaBundler
