import LuaBundler.Deploy
import LuaBundler.Job.Run

/-!
# Output of the command line

The texts that the commands print: reports of bundles, dependency graphs, warnings, artifacts, and
errors with their causes. Every line ends in a line feed. Paths inside the project are shown
relative to it.
-/

namespace LuaBundler.CommandLine

open Text

/-- A line. -/
def line (s : String) : String := s ++ "\n"

/-- Lines. -/
def lines (ss : List String) : String :=
  String.join (ss.map line)

/-! ### Warnings, cycles and artifacts -/

/-- Warnings, each on a line. -/
def warningLines (warnings : List Warning) : String :=
  lines (warnings.map fun w => "warning: " ++ w.message)

/-- A cycle group. -/
def groupText (project : Path) (group : List Path) : String :=
  String.intercalate " <-> " (group.map fun p => (p.relativeTo project).text)

/-- Where an artifact is, and what it holds. -/
def artifactText (a : Artifact) : String :=
  a.path.text ++ " (" ++ decimal a.size ++ " bytes, sha256 " ++ a.sha256 ++ ")"

/-! ### Reports -/

/-- A line that is there only if a list has members. -/
def listLine (title : String) (names : List String) : String :=
  if names.isEmpty then "" else line (title ++ String.intercalate ", " names)

/-- The report of a bundle. -/
def reportText (job : Job) (r : JobReport) : String :=
  line ("Bundled " ++ decimal r.moduleCount ++ " module(s) from " ++
    (r.entry.relativeTo job.project).text) ++
  listLine "Runtime modules left to the host: " r.stripped ++
  lines (r.cycleGroups.map fun group => "Cycle: " ++ groupText job.project group) ++
  warningLines r.warnings

/-- What a check says of an analysis. -/
def analysisText (a : Analysis) : String :=
  line ("Dependency analysis passed: " ++ decimal a.graph.nodes.length ++ " module(s), " ++
    decimal a.runtimeNames.length ++ " runtime module(s)") ++ warningLines a.warnings

/-! ### Graphs -/

/-- A require in the list of a module. -/
def dependencyLine (project : Path) (d : Dependency) : String :=
  match d.resolution with
  | .project path => line ("  " ++ d.name ++ " -> " ++ (path.relativeTo project).text)
  | other => line ("  " ++ d.name ++ " [" ++ other.kindName ++ "]")

/-- A module with its requires. -/
def nodeText (project : Path) (node : ModuleNode) : String :=
  line (node.path.relativeTo project).text ++
    String.join (node.dependencies.map (dependencyLine project))

/-- The requires that lead nowhere. -/
def unresolvedText (requires : List UnresolvedRequire) : String :=
  if requires.isEmpty then ""
  else "\n" ++ line "Unresolved:" ++ lines (requires.map fun u => "  " ++ u.message)

/-- A dependency graph. -/
def graphText (project : Path) (a : Analysis) : String :=
  String.join (a.graph.nodes.map fun n => nodeText project n.2) ++
  (if a.runtimeNames.isEmpty then "" else "\n" ++ listLine "Runtime modules: " a.runtimeNames) ++
  unresolvedText a.graph.unresolved ++
  String.join (a.cycleGroups.map fun group =>
    "\n" ++ line ("Cycle: " ++ groupText project group)) ++
  warningLines a.warnings

/-! ### Errors -/

/-- A text whose lines after the first are indented. -/
def indented (indent s : String) : String :=
  String.intercalate ("\n" ++ indent) (pieces '\n' s)

/-- A cause in a numbered list. -/
def numberedCause (cause : String × Nat) : String :=
  "\n    " ++ decimal cause.2 ++ ": " ++ indented "       " cause.1

/-- The causes below an error. -/
def causesText : List String → String
  | [] => ""
  | [cause] => "\n\nCaused by:\n    " ++ indented "    " cause
  | causes => "\n\nCaused by:" ++ String.join (causes.zipIdx.map numberedCause)

/-- An error with its causes. -/
def errorText (chain : List String) : String :=
  line ("Error: " ++ chain.headD "" ++ causesText chain.tail)

end LuaBundler.CommandLine
