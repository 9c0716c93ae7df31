import LuaBundler.Environment
import LuaBundler.Files.Walk

/-!
# File operations

A machine holds a file tree, a working directory and an environment. Queries read the tree. Changes
ask the system one by one: `attempt` counts them, and `refuse` says which of them the system turns
down and why, so that "whatever the system refuses" can be said of every operation built on them. A
refused change leaves the tree as it was.

Queries, writing and copying follow a link at the end of a path; creating a directory, removing and
renaming do not.
-/

namespace LuaBundler.Files

open LuaBundler.Text

/-- A change the system is asked for. -/
inductive Change where
  | createDir (place : Place)
  | createFile (place : Place)
  | writeFile (place : Place)
  | flushFile (place : Place)
  | rename (source target : Place)
  | removeFile (place : Place)
  | removeDir (place : Place)
  deriving Repr, DecidableEq

/-- A file tree, a working directory, an environment, and the system's answers to changes. -/
structure Machine where
  tree : Tree
  cwd : Place
  env : Environment
  /-- How many changes have been asked for. -/
  changes : Nat := 0
  /-- Why the system refuses the change of a number, if it does. -/
  refuse : Nat → Change → Option FileError := fun _ _ => none

namespace Machine

/-! ### Queries -/

/-- Where a path leads. -/
def locate (m : Machine) (follow : Bool) (p : Path) : Except FileError Spot :=
  m.tree.locate m.cwd follow p

/-- The entry that a path leads to, links followed. -/
def entryAt? (m : Machine) (p : Path) : Except FileError (Place × Node) :=
  match m.locate true p with
  | .ok (.found place node) => .ok (place, node)
  | .ok (.vacant ..) => .error .notFound
  | .error e => .error e

/-- Whether a path leads to an entry. -/
def «exists» (m : Machine) (p : Path) : Bool :=
  match m.entryAt? p with
  | .ok _ => true
  | .error _ => false

/-- Whether a path leads to a file. -/
def isFile (m : Machine) (p : Path) : Bool :=
  match m.entryAt? p with
  | .ok (_, node) => node.isFile
  | .error _ => false

/-- Whether a path leads to a directory. -/
def isDir (m : Machine) (p : Path) : Bool :=
  match m.entryAt? p with
  | .ok (_, node) => node.isDir
  | .error _ => false

/-- The bytes of the file that a path leads to. -/
def read (m : Machine) (p : Path) : Except FileError Bytes :=
  match m.entryAt? p with
  | .ok (_, .file bytes _) => .ok bytes
  | .ok (_, .device _) => .ok []
  | .ok _ => .error .isDirectory
  | .error e => .error e

/-- The text of the file that a path leads to. -/
def readText (m : Machine) (p : Path) : Except FileError String := do
  match string? (← m.read p) with
  | some text => .ok text
  | none => .error .notText

/-- The names in the directory that a path leads to. -/
def names (m : Machine) (p : Path) : Except FileError (List String) :=
  match m.entryAt? p with
  | .ok (place, .dir) => .ok (m.tree.names place)
  | .ok _ => .error .notDirectory
  | .error e => .error e

/-- The path of the place that a path leads to, free of links. -/
def canonical (m : Machine) (p : Path) : Except FileError Path :=
  (m.entryAt? p).map fun e => Place.path e.1

/-- A path in a form that can be compared: of the place it leads to, or else made absolute without
looking at files. -/
def normalize (m : Machine) (p : Path) : Path :=
  match m.canonical p with
  | .ok q => q
  | .error _ => (p.absolute? (Place.path m.cwd)).getD p

/-- The machine with a working directory of its own. -/
def enter (m : Machine) (p : Path) : Except FileError Machine :=
  match m.entryAt? p with
  | .ok (place, .dir) => .ok { m with cwd := place }
  | .ok _ => .error .notDirectory
  | .error e => .error e

/-! ### Changes -/

/-- The answer to a request and the machine after it. -/
abbrev Answer (α : Type) := Except FileError α × Machine

/-- Asks for one change; `next` is the tree if it is granted. -/
def attempt (m : Machine) (c : Change) (next : Tree) : Answer Unit :=
  let m' := { m with changes := m.changes + 1 }
  match m.refuse m.changes c with
  | some e => (.error e, m')
  | none => (.ok (), { m' with tree := next })

/-- A change of a tree entry, if the place for it was found. -/
def attemptAt (m : Machine) (found : Except FileError (Change × Tree)) : Answer Unit :=
  match found with
  | .ok (c, next) => m.attempt c next
  | .error e => (.error e, m)

/-- The path without slashes at its end. -/
def unslashed (p : Path) : Path :=
  let rest := p.text.toList.reverse.dropWhile (· = '/')
  if rest = [] then p else ⟨String.ofList rest.reverse⟩

/-- Whether a path ends in a slash. -/
def endsInSlash (p : Path) : Bool :=
  p.text.toList.getLast? = some '/'

/-- The last name of a path, the slashes at its end left out. -/
def lastStep (p : Path) : Option String :=
  (steps (unslashed p).text).getLast?

/-- Creates a directory in an existing one. -/
def createDir (m : Machine) (p : Path) : Answer Unit :=
  m.attemptAt <| do
    match ← m.locate false (unslashed p) with
    | .found .. => .error .exists
    | .vacant dir name => .ok (.createDir (dir ++ [name]), m.tree.set (dir ++ [name]) .dir)

/-- Creates a directory and those above it that are missing, trying at most `steps` levels up. -/
def createDirsWithin : Nat → Machine → Path → Answer Unit
  | steps, m, p =>
    if p.components = [] then (.ok (), m)
    else
      match m.createDir p with
      | (.ok (), m) => (.ok (), m)
      | (.error .notFound, m) =>
        match steps, p.parent? with
        | steps + 1, some above =>
          match createDirsWithin steps m above with
          | (.error e, m) => (.error e, m)
          | (.ok (), m) =>
            match m.createDir p with
            | (.ok (), m) => (.ok (), m)
            | (.error e, m) => (if m.isDir p then .ok () else .error e, m)
        | _, _ => (.error .noAncestor, m)
      | (.error e, m) => (if m.isDir p then .ok () else .error e, m)

/-- Creates a directory and those above it that are missing. -/
def createDirs (m : Machine) (p : Path) : Answer Unit :=
  createDirsWithin (p.components.length + 1) m p

/-- Where writing to a path puts the bytes, and whether the file there is executable. -/
def writable (m : Machine) (p : Path) : Except FileError (Place × Bool) := do
  match ← m.locate true (unslashed p) with
  | .found place (.file _ executable) =>
    if endsInSlash p then .error .notDirectory else .ok (place, executable)
  | .found place (.device kind) =>
    if endsInSlash p then .error .notDirectory
    else if kind = .full then .error .noSpace
    else .ok (place, false)
  | .found _ _ => .error .isDirectory
  | .vacant dir name =>
    if endsInSlash p then .error .isDirectory else .ok (dir ++ [name], false)

/-- Creates or replaces the contents of a file. -/
def write (m : Machine) (p : Path) (bytes : Bytes) : Answer Unit :=
  m.attemptAt <| (m.writable p).map fun (place, executable) =>
    (.writeFile place, m.tree.fill place bytes executable)

/-- Copies a file onto a path. The target is emptied before the source is read, so a file copied
onto itself ends up empty. -/
def copy (m : Machine) (source target : Path) : Answer Unit :=
  m.attemptAt <| do
    match ← m.entryAt? source with
    | (place, .file bytes executable) =>
      let (goal, _) ← m.writable target
      let contents := if goal = place then [] else bytes
      .ok (.writeFile goal, m.tree.fill goal contents executable)
    | _ => .error .notRegular

/-- Removes a file or a link. -/
def removeFile (m : Machine) (p : Path) : Answer Unit :=
  m.attemptAt <| do
    match ← m.locate false (unslashed p) with
    | .found _ .dir => .error .isDirectory
    | .found place _ =>
      if endsInSlash p then .error .notDirectory else .ok (.removeFile place, m.tree.erase place)
    | .vacant .. => .error .notFound

/-- Removes an empty directory. -/
def removeDir (m : Machine) (p : Path) : Answer Unit :=
  m.attemptAt <| do
    match ← m.locate false (unslashed p) with
    | .found place .dir =>
      if lastStep p = some "." then .error .invalidArgument
      else if lastStep p = some ".." then .error .notEmpty
      else if place = [] then .error .busy
      else if m.tree.names place = [] then .ok (.removeDir place, m.tree.erase place)
      else .error .notEmpty
    | .found .. => .error .notDirectory
    | .vacant .. => .error .notFound

/-- Renames the file at a place onto a path: what is there is replaced, a directory excepted. A path
with a NUL character is no argument for a renaming. -/
def renameFile (m : Machine) (source : Place) (p : Path) : Answer Unit :=
  m.attemptAt <| do
    if '\x00' ∈ p.text.toList then .error .invalidArgument
    let spot ← m.locate false (unslashed p)
    if lastStep p = none ∨ lastStep p = some "." ∨ lastStep p = some ".." then .error .busy
    else if endsInSlash p then .error .notDirectory
    else
      let goal ← match spot with
        | .found _ .dir => .error .isDirectory
        | .found place _ => .ok place
        | .vacant dir name => .ok (dir ++ [name])
      match m.tree.get? source with
      | some node => .ok (.rename source goal, (m.tree.erase source).set goal node)
      | none => .error .notFound

/-! ### What a refused change leaves -/

/-- A change that is not granted leaves the tree as it was. -/
theorem tree_attempt_of_error {m m' : Machine} {c : Change} {next : Tree} {e : FileError}
    (h : m.attempt c next = (.error e, m')) : m'.tree = m.tree := by
  unfold attempt at h
  split at h <;> simp only [Prod.mk.injEq] at h
  · rw [← h.2]
  · simp at h

theorem tree_attemptAt_of_error {m m' : Machine} {found : Except FileError (Change × Tree)}
    {e : FileError} (h : m.attemptAt found = (.error e, m')) : m'.tree = m.tree := by
  unfold attemptAt at h
  split at h
  · exact tree_attempt_of_error h
  · simp only [Prod.mk.injEq] at h
    rw [← h.2]

end Machine

end LuaBundler.Files
