import LuaBundler.Files.Machine
import LuaBundler.ModuleName
import LuaBundler.Process.Basic
import LuaBundler.Text.Blank

/-!
# Syntax checks

A Lua compiler is run on each file of a project, one after another, up to the first that does not
compile. A file that does not compile has a diagnostic; a compiler that cannot be run or takes too
long is an error of another kind.
-/

namespace LuaBundler.Syntax

open Files Process Text

/-! ### The Lua files of a project

The files that the syntax check covers: those with the extension of script modules below the project
directory, found depth first with siblings in the order of their names. Hidden directories, build
output and vendored modules are left out, and links are not followed; the project directory itself
may be any of these. -/

/-- The names of directories that are left out, hidden ones aside. -/
def skippedDirs : List String := ["build", "node_modules"]

/-- Whether a directory is left out. -/
def isSkipped (name : String) : Bool :=
  name.toList.head? = some '.' || skippedDirs.contains name

/-- Whether a file is a script module by its name. -/
def isLua (path : Path) : Bool :=
  path.extension? = some ModuleName.moduleExtension

/-- The names in a directory in their order. -/
def sortedNames (t : Tree) (place : Place) : List String :=
  (t.names place).mergeSort fun a b => decide (a ≤ b)

/-- The Lua files below a directory, at most `depth` levels down. -/
def filesWithin (t : Tree) : Nat → Place → Path → List Path
  | 0, _, _ => []
  | depth + 1, place, path =>
    (sortedNames t place).flatMap fun name =>
      match t.get? (place ++ [name]) with
      | some .dir =>
        if isSkipped name then []
        else filesWithin t depth (place ++ [name]) (path.join ⟨name⟩)
      | some (.file ..) => if isLua (path.join ⟨name⟩) then [path.join ⟨name⟩] else []
      | _ => []

/-- The Lua files of a project; a file in its place stands for itself. -/
def luaFiles (m : Machine) (project : Path) : List Path :=
  match m.entryAt? project with
  | .ok (place, .dir) => filesWithin m.tree (m.tree.entries.length + 1) place project
  | .ok _ =>
    match m.locate false project with
    | .ok (.found _ (.file ..)) => if isLua project then [project] else []
    | _ => []
  | .error _ => []

/-! ### Compilers -/

/-- A Lua compiler, and how long it may take for a file. -/
structure Compiler where
  path : Path
  timeout : Duration := .ofMillis 10000
  deriving Repr, DecidableEq

/-- The names that a compiler may have, the first one preferred. -/
def compilerNames : List String := ["luac5.4", "luac54", "luac5.5", "luac55", "luac"]

/-- The compiler that is named, if it can be used, or else one that is installed. -/
def Compiler.locate? (m : Machine) (named : Option Path) : Option Compiler :=
  let explicit := named.bind fun p => if m.isFile p then some p else which? m p
  let installed := compilerNames.findSome? fun name => which? m ⟨name⟩
  (explicit.or installed).map fun path => { path }

/-- Why a file could not be checked. -/
inductive CheckError where
  | timedOut (compiler file : Path) (limit : Duration)
  | notStarted (compiler : Path) (cause : FileError)
  deriving Repr, DecidableEq

/-- The message of each cause, and what caused it. -/
def CheckError.chain : CheckError → List String
  | timedOut compiler file limit =>
    [compiler.text ++ " -p " ++ file.text ++ " did not finish within " ++ limit.text]
  | notStarted compiler cause => ["Failed to run " ++ compiler.text, cause.message]

/-- The diagnostic of a compiler: what it wrote to its error stream, or else to its output. -/
def diagnosticOf (stdout stderr : Bytes) : String :=
  let complaint := trimmed (lossyString stderr)
  if complaint = "" then trimmed (lossyString stdout) else complaint

/-- The verdict on a file: a diagnostic if it does not compile. -/
abbrev Verdict := Except CheckError (Option String)

/-- What a run of a compiler says about a file. -/
def Compiler.verdict (c : Compiler) (file : Path) (run : Run) : Verdict :=
  match run.exit with
  | .exited status =>
    .ok (if status.isSuccess then none else some (diagnosticOf run.stdout run.stderr))
  | .waitFailed cause => .error (.notStarted c.path cause)
  | .timedOut => .error (.timedOut c.path file c.timeout)

/-- Runs a compiler on a file. -/
def Compiler.check (host : Host) (c : Compiler) (m : Machine) (file : Path) : Verdict × Machine :=
  match host.run m ⟨.named c.path.text, ["-p", file.text], [], .kill c.timeout⟩ with
  | .error cause => (.error (.notStarted c.path cause), m)
  | .ok run => (c.verdict file run, { m with tree := run.tree })

/-! ### Files and projects -/

/-- Why a file or a project does not pass. -/
inductive ValidationError where
  | check (cause : CheckError)
  /-- A file does not compile; its path is relative to the project if it is in there. -/
  | invalid (file : Path) (diagnostic : String)
  deriving Repr, DecidableEq

/-- Checks files in order up to the first that does not compile, and counts them. -/
def checkAll (check : Machine → Path → Verdict × Machine) (project : Path) :
    Machine → List Path → Except ValidationError Nat × Machine
  | m, [] => (.ok 0, m)
  | m, file :: rest =>
    match check m file with
    | (.error cause, m) => (.error (.check cause), m)
    | (.ok (some diagnostic), m) => (.error (.invalid (file.relativeTo project) diagnostic), m)
    | (.ok none, m) =>
      match checkAll check project m rest with
      | (.ok n, m) => (.ok (n + 1), m)
      | (.error e, m) => (.error e, m)

/-- Checks one file of a project. -/
def validateFile (check : Machine → Path → Verdict × Machine) (m : Machine) (file project : Path) :
    Except ValidationError Unit × Machine :=
  match checkAll check project m [file] with
  | (.ok _, m) => (.ok (), m)
  | (.error e, m) => (.error e, m)

/-- Checks the files of a project. -/
def validateProject (check : Machine → Path → Verdict × Machine) (m : Machine) (project : Path) :
    Except ValidationError Nat × Machine :=
  checkAll check project m (luaFiles m project)

end LuaBundler.Syntax
