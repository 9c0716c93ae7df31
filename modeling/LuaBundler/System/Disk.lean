import LuaBundler.Files.Walk
import LuaBundler.System.Octets

/-!
# Disks

A disk keeps what a file tree holds in numbered nodes, so that one file can have several names, and
can be in use when its last name is gone. A directory has names for nodes, and knows the directory
above it; each node has a mode, a count of its names, and the time of its last change. Names are
octet texts.

`Disk.ofTree` lays a tree out on a disk, and `Disk.toTree` reads it back. A path leads to a `Spot`: a
name in a directory, and the node of that name if there is one.
-/

namespace LuaBundler.System

open Files Text

/-- What a node of a disk is. -/
inductive Content where
  | dir (entries : List (String × Nat)) (parent : Nat)
  | file (bytes : ByteArray)
  | link (target : String)
  | device (kind : Device)
  /-- The file that a process has open under a number. -/
  | descriptor (number : Nat)
  /-- The terminal of a process, of which there is none. -/
  | terminal
  /-- A pipe that has a name. -/
  | queue (pipe : Option Nat)

namespace Content

/-- Whether a node is a directory. -/
def isDir : Content → Bool
  | dir .. => true
  | _ => false

end Content

/-- A node of a disk. -/
structure Inode where
  content : Content
  /-- The permission bits. -/
  mode : Nat
  /-- How many names it has. -/
  links : Nat
  /-- When it was last changed, in microseconds from the start of the system on. -/
  modified : Int

/-- Nodes by number. The first one is the root. -/
structure Disk where
  inodes : Array Inode

namespace Disk

/-- The number of the root. -/
def root : Nat := 0

/-- The disk of the root alone. -/
def empty : Disk := ⟨#[⟨.dir [] root, 0o755, 2, 0⟩]⟩

/-- The node of a number. -/
def get (d : Disk) (n : Nat) : Inode :=
  d.inodes.getD n ⟨.file ByteArray.empty, 0, 0, 0⟩

/-- What the node of a number is. -/
def content (d : Disk) (n : Nat) : Content :=
  (d.get n).content

/-- Whether the node of a number is a directory. -/
def isDir (d : Disk) (n : Nat) : Bool :=
  (d.content n).isDir

/-- The disk with a node changed. -/
def modify (d : Disk) (n : Nat) (f : Inode → Inode) : Disk :=
  ⟨d.inodes.modify n f⟩

/-- The disk with the content of a node replaced at a time. -/
def setContent (d : Disk) (n : Nat) (c : Content) (time : Nat) : Disk :=
  d.modify n fun i => { i with content := c, modified := time }

/-- The disk with one more node, which has no name yet. -/
def add (d : Disk) (i : Inode) : Disk × Nat :=
  (⟨d.inodes.push i⟩, d.inodes.size)

/-! ### Directories -/

/-- The names in a directory. -/
def entries (d : Disk) (n : Nat) : List (String × Nat) :=
  match d.content n with
  | .dir entries _ => entries
  | _ => []

/-- The directory above a directory. -/
def parent (d : Disk) (n : Nat) : Nat :=
  match d.content n with
  | .dir _ parent => parent
  | _ => root

/-- The node of a name in a directory. -/
def find? (d : Disk) (dir : Nat) (name : String) : Option Nat :=
  (d.entries dir).lookup name

/-- The disk with the names in a directory replaced at a time. -/
def setEntries (d : Disk) (dir : Nat) (entries : List (String × Nat)) (time : Nat) : Disk :=
  d.setContent dir (.dir entries (d.parent dir)) time

/-- Gives a node a name in a directory. -/
def enter (d : Disk) (dir : Nat) (name : String) (n time : Nat) : Disk :=
  d.setEntries dir (d.entries dir ++ [(name, n)]) time

/-- Takes a name out of a directory. -/
def leave (d : Disk) (dir : Nat) (name : String) (time : Nat) : Disk :=
  d.setEntries dir ((d.entries dir).filter (·.1 != name)) time

/-- Adds to the count of names of a node. -/
def addLinks (d : Disk) (n : Nat) (change : Nat → Nat) : Disk :=
  d.modify n fun i => { i with links := change i.links }

/-- A new node under a name in a directory. -/
def create (d : Disk) (dir : Nat) (name : String) (c : Content) (mode time : Nat) : Disk × Nat :=
  let (d, n) := d.add ⟨c, mode, if c.isDir then 2 else 1, time⟩
  let d := d.enter dir name n time
  (if c.isDir then d.addLinks dir (· + 1) else d, n)

/-- Removes a name, which is the last one of a directory. -/
def remove (d : Disk) (dir : Nat) (name : String) (time : Nat) : Disk :=
  match d.find? dir name with
  | none => d
  | some n =>
    let d := d.leave dir name time
    if d.isDir n then (d.addLinks n fun _ => 0).addLinks dir (· - 1) else d.addLinks n (· - 1)

/-! ### Paths -/

/-- Where a path leads: to a name in a directory, which may have a node. A path that ends at the
root, or in `.` or `..`, has no name. -/
structure Spot where
  dir : Nat
  name : String
  node? : Option Nat
  /-- Whether the path ends in a slash. -/
  slashed : Bool := false

/-- The names of a path. -/
def pathNames (path : String) : List String :=
  ((splitOn '/' path.toList).filter (· ≠ [])).map String.ofList

/-- Whether a path ends in a slash. -/
def endsInSlash (path : String) : Bool :=
  path.toList.getLast? = some '/'

/-- Whether a path starts at the root. -/
def isAbsolute (path : String) : Bool :=
  path.toList.head? = some '/'

/-- The names of a path from left to right; a slash at the end asks for a directory, as `.` does. -/
def steps (path : String) : List String :=
  if endsInSlash path then pathNames path ++ ["."] else pathNames path

/-- Walks names from a directory. -/
def walk (d : Disk) (follow : Bool) (links here : Nat) (todo : List String) :
    Except FileError Spot :=
  match todo with
  | [] => .ok ⟨here, "", some here, false⟩
  | name :: rest =>
    if !d.isDir here then .error .notDirectory
    else if name = "." then d.walk follow links here rest
    else if name = ".." then d.walk follow links (d.parent here) rest
    else if maxName < name.length then .error .nameTooLong
    else match d.find? here name with
      | none => if rest = [] then .ok ⟨here, name, none, false⟩ else .error .notFound
      | some n =>
        match d.content n with
        | .link target =>
          if rest = [] ∧ follow = false then .ok ⟨here, name, some n, false⟩
          else if target = "" then .error .notFound
          else match links with
            | 0 => .error .tooManyLinks
            | links + 1 =>
              d.walk follow links (if isAbsolute target then root else here) (steps target ++ rest)
        | _ =>
          if rest = [] then .ok ⟨here, name, some n, false⟩
          else d.walk follow links n rest
termination_by (links, todo.length)

/-- Whether a path may be walked at all. -/
def check (path : String) : Except FileError Unit :=
  if path = "" then .error .notFound
  else if maxPath < path.length then .error .nameTooLong
  else .ok ()

/-- Where a path leads; slashes at its end are noted. -/
def spot (d : Disk) (cwd : Nat) (follow : Bool) (path : String) : Except FileError Spot := do
  check path
  let found ← d.walk follow maxLinks (if isAbsolute path then root else cwd) (pathNames path)
  return { found with slashed := endsInSlash path }

/-- The node that a path leads to. A path that ends in a slash leads to a directory. -/
def locate (d : Disk) (cwd : Nat) (follow : Bool) (path : String) : Except FileError Nat := do
  check path
  let found ← d.walk follow maxLinks (if isAbsolute path then root else cwd) (steps path)
  match found.node? with
  | some n => return n
  | none => .error .notFound

/-- The path of a directory, if it still has one. -/
def pathWithin (d : Disk) : Nat → Nat → Option (List String)
  | 0, _ => none
  | fuel + 1, n =>
    if n = root then some []
    else do
      let above := d.parent n
      let entry ← (d.entries above).find? (·.2 == n)
      return (← d.pathWithin fuel above) ++ [entry.1]

/-- The path of a directory, if it still has one. -/
def path? (d : Disk) (n : Nat) : Option String :=
  (d.pathWithin (d.inodes.size + 1) n).map fun names => "/" ++ String.intercalate "/" names

/-- Whether a directory is another one or lies below it. -/
def isWithin (d : Disk) : Nat → Nat → Nat → Bool
  | 0, _, _ => false
  | fuel + 1, top, n =>
    n = top || (n ≠ root && d.isWithin fuel top (d.parent n))

/-! ### Trees -/

/-- The node that an entry of a tree becomes. -/
def inodeOf (parent : Nat) : Node → Inode
  | .dir => ⟨.dir [] parent, 0o755, 2, 0⟩
  | .file bytes executable => ⟨.file (packed bytes), if executable then 0o755 else 0o644, 1, 0⟩
  | .link target => ⟨.link (octets target), 0o777, 1, 0⟩
  | .device kind => ⟨.device kind, 0o666, 1, 0⟩

/-- The disk with an entry of a tree put at a place, whose directory is there. -/
def put (d : Disk) (e : Place × Node) : Disk :=
  match e.1.getLast?, d.walk false 0 root (e.1.dropLast.map octets) with
  | some name, .ok ⟨_, _, some dir, _⟩ =>
    let node := inodeOf dir e.2
    (d.create dir (octets name) node.content node.mode 0).1
  | _, _ => d

/-- The files of a device directory that stand for what a process has open. -/
def openNames : List (String × Content) := [("stdin", .descriptor 0), ("stdout", .descriptor 1),
  ("stderr", .descriptor 2), ("tty", .terminal)]

/-- The directory of devices. -/
def devicePlace : String := "/dev"

/-- The disk with the files that stand for what a process has open, if it has a place for them. -/
def addOpenNames (d : Disk) : Disk :=
  match d.locate root true devicePlace with
  | .ok dir =>
    openNames.foldl (fun d e =>
      if d.isDir dir ∧ d.find? dir e.1 = none then (d.create dir e.1 e.2 0o666 0).1 else d) d
  | .error _ => d

/-- A tree laid out on a disk. -/
def ofTree (t : Tree) : Disk :=
  ((t.entries.mergeSort fun a b => a.1.length ≤ b.1.length).foldl put empty).addOpenNames

/-- What a node is in a tree, if it is anything there. -/
def nodeOf? (i : Inode) : Option Node :=
  match i.content with
  | .dir .. => some .dir
  | .file bytes => some (.file bytes.toList (i.mode &&& 0o111 != 0))
  | .link target => some (.link (readOctets target))
  | .device kind => some (.device kind)
  | .descriptor _ | .terminal | .queue _ => none

/-- The entries of a tree below a directory. -/
def listing (d : Disk) : Nat → Place → Nat → List (Place × Node)
  | 0, _, _ => []
  | fuel + 1, place, dir =>
    (d.entries dir).flatMap fun e =>
      let here := place ++ [readOctets e.1]
      let below := if d.isDir e.2 then d.listing fuel here e.2 else []
      (nodeOf? (d.get e.2)).toList.map (here, ·) ++ below

/-- The tree that a disk holds. -/
def toTree (d : Disk) : Tree :=
  ⟨d.listing (d.inodes.size + 1) [] root⟩

end Disk

end LuaBundler.System
