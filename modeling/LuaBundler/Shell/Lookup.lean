import LuaBundler.Shell.State
import LuaBundler.System.Loader

/-!
# Finding commands

A name without slashes is that of a function, of a builtin, or of a program in one of the
directories of the search path; the shell remembers in which one. The first two need no search, so
they come first. Whether what is found can be run turns out when it is run.
-/

namespace LuaBundler.Shell

open LuaBundler.Files LuaBundler.System LuaBundler.Text

/-! ### Builtins -/

/-- The builtins whose arguments may be assignments, which are not split. -/
def assigningBuiltins : List String := ["alias", "export", "local", "readonly"]

/-- The other builtins. -/
def usualBuiltins : List String := ["[", "alias", "bg", "cd", "chdir", "command", "echo", "false",
  "fg", "getopts", "hash", "jobs", "kill", "printf", "pwd", "read", "test", "true", "type", "ulimit",
  "umask", "unalias", "wait"]

/-- Whether a name is that of a builtin. -/
def isBuiltin (name : String) : Bool :=
  specialNames.contains name || usualBuiltins.contains name

/-! ### Paths -/

/-- The search path when none is to be relied on. -/
def safePath : String := "/usr/local/sbin:/usr/local/bin:/usr/sbin:/usr/bin:/sbin:/bin"

/-- The search path of a shell. -/
def searchPath (s : Shell) : String :=
  (s.get? "PATH").getD ""

/-- What a command is. -/
inductive Found where
  | function (body : Node)
  | builtin
  /-- A path of its own. -/
  | path
  /-- A program in one of the directories of the search path. -/
  | program (index : Nat)
  | unknown

/-- Looks for a file that may be run among paths, from an index on. Gives the index, or the failure that
counts most. -/
def findFile (index : Nat) (worst : FileError) : List String → Sh (Except FileError Nat)
  | [] => return .error worst
  | path :: paths => do
    match ← Sh.ask (.facts path true) with
    | .ok facts =>
      if facts.kind = .file && facts.mode &&& 0o111 != 0 then return .ok index
      else findFile (index + 1) .permissionDenied paths
    | .error .notFound => findFile (index + 1) worst paths
    | .error .notDirectory => findFile (index + 1) worst paths
    | .error e => findFile (index + 1) e paths

/-- Why a program cannot be run. -/
def launchReason (e : FileError) : String :=
  match e with
  | .notFound | .notDirectory => "not found"
  | e => e.reason

/-- How a command is looked for. -/
structure Search where
  path : String
  withFunctions : Bool := true
  /-- Whether it is complained of commands that are not found. -/
  complains : Bool := false
  /-- Whether a path of its own has to lead to something. -/
  checksPath : Bool := false

/-- Remembers where a program is. -/
def remember (name : String) (index : Nat) : Sh Unit :=
  Sh.modify fun s => { s with located := Shell.putEntry name ⟨index, false⟩ s.located }

/-- Finds a command. -/
def find (search : Search) (name : String) : Sh Found := do
  let s ← Sh.get
  if '/' ∈ name.toList then
    if search.checksPath then
      match ← Sh.ask (.facts name true) with
      | .ok _ => return .path
      | .error _ => return .unknown
    else return .path
  else
    let isUsual := decide (search.path = searchPath s)
    match (if search.withFunctions then s.functions.lookup name else none) with
    | some body => return .function body
    | none =>
    if isBuiltin name then return .builtin
    else match (if isUsual then s.located.lookup name else none) with
    | some ⟨index, false⟩ => return .program index
    | _ =>
      match ← findFile 0 .notFound (programPaths (some search.path) name) with
      | .ok index =>
        if isUsual && (s.functions.lookup name).isNone then remember name index
        return .program index
      | .error e =>
        if isUsual then Sh.modify fun s => { s with located := Shell.dropEntry name s.located }
        if search.complains then Sh.complain (name ++ ": " ++ launchReason e)
        return .unknown

/-- The path of a program that was found. -/
def foundPath (path name : String) (index : Nat) : String :=
  (programPaths (some path) name).getD index name

/-! ### Running programs -/

/-- Whether bytes look like no text: a program, or a NUL before the first line end. -/
def isBinary (bytes : Bytes) : Bool :=
  (utilityMark.take 4).isPrefixOf bytes || (bytes.takeWhile (· ≠ 0x0a)).contains 0

/-- The bytes that a file starts with. -/
def fileStart (path : String) : Sh Bytes := do
  match ← Sh.ask (.open path { read := true }) with
  | .error _ => return []
  | .ok number =>
    let start ← Sh.ask (.read number 256)
    discard (Sh.ask (.close number))
    match start with
    | .ok bytes => return bytes.toList
    | .error _ => return []

/-- Becomes the program of a path; gives the failure if it cannot. A file of no executable format is
a script, unless it is no text. -/
def launch (path : String) (args env : List String) : Sh FileError := do
  match ← Sh.ask (.launch path args env) with
  | .ok _ => return .notFound
  | .error .execFormat =>
    if isBinary (← fileStart path) then return .execFormat
    else match ← Sh.ask (.launch fallbackShell (fallbackArgs path args) env) with
      | .ok _ => return .notFound
      | .error e => return e
  | .error e => return e

/-- Becomes one of several programs; gives the failure that counts if it cannot. -/
def launchFirst (args env : List String) (worst : FileError) : List String → Sh FileError
  | [] => return worst
  | path :: paths => do
    match ← launch path args env with
    | .notFound | .notDirectory => launchFirst args env worst paths
    | e => launchFirst args env e paths

/-- The status of a shell that cannot run a program. -/
def launchStatus (e : FileError) : Nat :=
  match e with
  | .tooManyLinks | .nameTooLong | .notFound | .notDirectory => 127
  | _ => 126

/-- Becomes a program; its directory is known from an index on. -/
def becomeProgram {α : Type} (path : String) (index : Nat) (args : List String) : Sh α := do
  let env := (← Sh.get).environment
  let name := args.head?.getD ""
  let e ← if '/' ∈ name.toList then launch name args env
    else launchFirst args env .notFound ((programPaths (some path) name).drop index)
  Sh.setStatus (launchStatus e)
  Sh.complain (name ++ ": " ++ launchReason e)
  Sh.leave .finished

end LuaBundler.Shell
