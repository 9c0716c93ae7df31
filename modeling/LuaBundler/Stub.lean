import LuaBundler.Files.Machine
import LuaBundler.Job.Warning
import LuaBundler.ModuleName

/-!
# Stubs

While a bundle is made, every runtime module has a stand-in file in the project tree, unless
something is there already. Missing directories are created one level at a time, and what was
created is recorded (`Stubs`): files in order, directories with parents before what they hold.
Cleaning up removes the files, and then the directories from the last one back, as far as they are
empty.

Neither step fails: what goes wrong becomes a warning.
-/

namespace LuaBundler

open Files

/-- A stub file and the module it stands for. -/
structure Stub where
  module : String
  path : Path
  deriving Repr, DecidableEq

/-- The stub files and directories that were created. -/
structure Stubs where
  files : List Stub
  /-- Parents come before what they hold. -/
  dirs : List Path
  deriving Repr, DecidableEq

namespace Stubs

/-- The record of nothing. -/
def empty : Stubs := ⟨[], []⟩

/-- Whether nothing was created. -/
def isEmpty (s : Stubs) : Bool :=
  s.files.isEmpty && s.dirs.isEmpty

/-- Records a file. -/
def addFile (s : Stubs) (stub : Stub) : Stubs :=
  { s with files := s.files ++ [stub] }

/-- Records a directory. -/
def addDir (s : Stubs) (dir : Path) : Stubs :=
  { s with dirs := s.dirs ++ [dir] }

end Stubs

namespace Stub

/-- What a stub file holds: a module that is an empty table. -/
def body : String := "return \x7b\x7d\n"

/-- Where the stub of a module goes in a project. -/
def path? (project : Path) (module : String) : Option Path :=
  (ModuleName.stem? module).map (ModuleName.plainFile project)

/-! ### Creating stubs -/

/-- The missing directories from below the project down to a directory. -/
def missingDirs (m : Machine) (project dir : Path) : List Path :=
  (dir.ancestors.takeWhile fun p => !p.same project && !m.exists p).reverse

/-- Creates directories in order and records each, up to the first that fails. -/
def createDirs (m : Machine) (s : Stubs) : List Path → Except String Unit × Machine × Stubs
  | [] => (.ok (), m, s)
  | dir :: rest =>
    match m.createDir dir with
    | (.error e, m) =>
      (.error ("failed to create directory " ++ dir.text ++ ": " ++ e.message), m, s)
    | (.ok (), m) => createDirs m (s.addDir dir) rest

/-- Writes the stub file of a module and records it. -/
def writeFile (m : Machine) (s : Stubs) (module : String) (path : Path) :
    Except String Unit × Machine × Stubs :=
  match m.write path (Text.encodeString body) with
  | (.error e, m) => (.error ("failed to write " ++ path.text ++ ": " ++ e.message), m, s)
  | (.ok (), m) => (.ok (), m, s.addFile ⟨module, path⟩)

/-- Creates the stub of a module, unless its path leads to something. -/
def create (m : Machine) (s : Stubs) (project : Path) (module : String) :
    Except String Unit × Machine × Stubs :=
  match path? project module with
  | none => (.error "module name does not map to a file path", m, s)
  | some path =>
    if m.exists path then (.ok (), m, s)
    else
      let missing := match path.parent? with
        | some dir => missingDirs m project dir
        | none => []
      match createDirs m s missing with
      | (.error reason, m, s) => (.error reason, m, s)
      | (.ok (), m, s) => writeFile m s module path

/-- Creates the stubs of modules; those that fail are skipped with a warning. -/
def createAll (m : Machine) (s : Stubs) (project : Path) :
    List String → List Warning × Machine × Stubs
  | [] => ([], m, s)
  | module :: rest =>
    match create m s project module with
    | (.ok (), m, s) => createAll m s project rest
    | (.error reason, m, s) =>
      let (warnings, m, s) := createAll m s project rest
      (.stubCreation module reason :: warnings, m, s)

/-! ### Removing stubs -/

/-- Turns the failure of a removal into a warning; that something is gone already is none. -/
def removal (path : Path) : Machine.Answer Unit → List Warning × Machine
  | (.ok (), m) => ([], m)
  | (.error .notFound, m) => ([], m)
  | (.error e, m) => ([.cleanup path e.message], m)

/-- Removes a stub file. -/
def removeFile (m : Machine) (path : Path) : List Warning × Machine :=
  removal path (m.removeFile path)

/-- Removes a stub directory if it is empty. -/
def removeDir (m : Machine) (path : Path) : List Warning × Machine :=
  match m.names path with
  | .ok [] =>
    match m.removeDir path with
    | (.ok (), m) => ([], m)
    | (.error e, m) => ([.cleanup path e.message], m)
  | .ok _ => ([], m)
  | .error e => removal path (.error e, m)

/-- Removes paths one after another. -/
def removeEach (remove : Machine → Path → List Warning × Machine) :
    Machine → List Path → List Warning × Machine
  | m, [] => ([], m)
  | m, path :: rest =>
    let (here, m) := remove m path
    let (later, m) := removeEach remove m rest
    (here ++ later, m)

end Stub

/-- Removes what was created: files in order, then directories from the last one back. -/
def Stubs.cleanUp (s : Stubs) (m : Machine) : List Warning × Machine :=
  let (files, m) := Stub.removeEach Stub.removeFile m (s.files.map (·.path))
  let (dirs, m) := Stub.removeEach Stub.removeDir m s.dirs.reverse
  (files ++ dirs, m)

end LuaBundler
