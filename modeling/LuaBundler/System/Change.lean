import LuaBundler.System.Disk
import LuaBundler.System.Request

/-!
# Changes of a disk

What each change of names and nodes does to a disk, and when it is turned down. A path that ends in
`.` or `..` has no name that could be changed, and a path that ends in a slash means a directory.
-/

namespace LuaBundler.System.Disk

open Files

/-- What a change of a disk leads to. -/
abbrev Changed := Except FileError Disk

/-- Makes a node under a name that is not there yet. -/
def makeNode (d : Disk) (cwd : Nat) (path : String) (content : Nat → Content) (mode time : Nat) :
    Changed := do
  let s ← d.spot cwd false path
  match s.node? with
  | some _ => .error .exists
  | none =>
    let c := content s.dir
    if s.slashed && !c.isDir then .error .notFound
    else return (d.create s.dir s.name c mode time).1

/-- Removes an empty directory. -/
def removeDir (d : Disk) (cwd : Nat) (path : String) (time : Nat) : Changed := do
  let s ← d.spot cwd false path
  match s.node? with
  | none => .error .notFound
  | some n =>
    if s.name = "" then
      match (pathNames path).getLast? with
      | some "." => .error .invalidArgument
      | some ".." => .error .notEmpty
      | _ => .error .busy
    else if !d.isDir n then .error .notDirectory
    else if d.entries n ≠ [] then .error .notEmpty
    else return d.remove s.dir s.name time

/-- Removes a name of a node that is no directory. -/
def removeFile (d : Disk) (cwd : Nat) (path : String) (time : Nat) : Changed := do
  let s ← d.spot cwd false path
  match s.node? with
  | none => .error .notFound
  | some n =>
    if d.isDir n then .error .isDirectory
    else if s.slashed then .error .notDirectory
    else return d.remove s.dir s.name time

/-- Takes a node that is there from one name to another, which is free. -/
def move (d : Disk) (source target : Spot) (n time : Nat) : Disk :=
  let d := (d.leave source.dir source.name time).enter target.dir target.name n time
  match d.content n with
  | .dir entries _ =>
    let d := d.modify n fun i => { i with content := .dir entries target.dir }
    (d.addLinks source.dir (· - 1)).addLinks target.dir (· + 1)
  | _ => d

/-- Renames a node. What has the name already is replaced, by its like. -/
def rename (d : Disk) (cwd : Nat) (source target : String) (time : Nat) : Changed := do
  let s ← d.spot cwd false source
  let t ← d.spot cwd false target
  match s.node? with
  | none => .error .notFound
  | some n =>
    let isDir := d.isDir n
    if s.name = "" ∨ t.name = "" then .error .busy
    else if !isDir && (s.slashed || t.slashed) then .error .notDirectory
    else if isDir && d.isWithin (d.inodes.size + 1) n t.dir then .error .invalidArgument
    else match t.node? with
      | none => return d.move s t n time
      | some m =>
        if n = m then return d
        else if isDir && !d.isDir m then .error .notDirectory
        else if !isDir && d.isDir m then .error .isDirectory
        else if d.entries m ≠ [] then .error .notEmpty
        else return (d.remove t.dir t.name time).move s t n time

/-- Gives a node that is no directory one more name. -/
def link (d : Disk) (cwd : Nat) (source target : String) (follow : Bool) (time : Nat) :
    Changed := do
  let n ← d.locate cwd follow source
  let t ← d.spot cwd false target
  match t.node? with
  | some _ => .error .exists
  | none =>
    if t.slashed then .error .notFound
    else if d.isDir n then .error .notPermitted
    else return (d.enter t.dir t.name n time).addLinks n (· + 1)

/-- The first bytes of a file, with zeros after its end. -/
def resized (bytes : ByteArray) (size : Nat) : ByteArray :=
  if size ≤ bytes.size then bytes.extract 0 size
  else bytes ++ ⟨Array.replicate (size - bytes.size) 0⟩

/-- Makes a change on behalf of a process with a working directory and a mask. -/
def apply (d : Disk) (cwd mask time : Nat) : DiskChange → Changed
  | .makeDir path mode => d.makeNode cwd path (.dir []) (mode &&& (0o7777 ^^^ mask)) time
  | .makeQueue path mode =>
    d.makeNode cwd path (fun _ => .queue none) (mode &&& (0o7777 ^^^ mask)) time
  | .symlink target path =>
    if target = "" then .error .notFound
    else d.makeNode cwd path (fun _ => .link target) 0o777 time
  | .removeDir path => d.removeDir cwd path time
  | .removeFile path => d.removeFile cwd path time
  | .rename source target => d.rename cwd source target time
  | .link source target follow => d.link cwd source target follow time
  | .setMode path mode => do
    let n ← d.locate cwd true path
    return d.modify n fun i => { i with mode }
  | .setTime path follow modified => do
    let n ← d.locate cwd follow path
    return d.modify n fun i => { i with modified }
  | .truncate path size => do
    let n ← d.locate cwd true path
    match d.content n with
    | .file bytes => return d.setContent n (.file (resized bytes size)) time
    | .dir .. => .error .isDirectory
    | _ => .error .invalidArgument

end LuaBundler.System.Disk
