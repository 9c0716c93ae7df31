import LuaBundler.Shell.Host

/-!
# The program

The files below the working directory, and those that an argument or a variable names by an absolute
path, are read into a machine. The command runs on that machine; then what it changed is written
back, and what it printed is printed.
-/

namespace LuaBundler.Main

open Files Process Text

/-! ### Reading files -/

/-- A text that starts like a script. -/
def isScript (bytes : Bytes) : Bool :=
  encodeString "#!" |>.isPrefixOf bytes

/-- Reads an entry and all below it into a tree. -/
partial def readInto (tree : Tree) (place : Place) : IO Tree := do
  let path := (Place.path place).text
  let real ← IO.FS.realPath path
  if real.toString ≠ path then
    return tree.set place (.link real.toString)
  else if ← real.isDir then
    let entries ← real.readDir
    entries.foldlM (fun tree e => tryRead tree (place ++ [e.fileName])) (tree.set place .dir)
  else
    let bytes := (← IO.FS.readBinFile real).toList
    return tree.set place (.file bytes (isScript bytes))
where
  /-- Leaves out what cannot be read. -/
  tryRead (tree : Tree) (place : Place) : IO Tree :=
    try readInto tree place catch _ => return tree

/-- The places from the root down to a place. -/
def leading (place : Place) : List Place :=
  (List.range place.length).map fun n => place.take (n + 1)

/-- Reads an entry, all below it, and the directories above it. -/
def readAround (tree : Tree) (place : Place) : IO Tree := do
  let known := (leading place).foldl (fun t p => if (t.get? p).isSome then t else t.set p .dir) tree
  if place = [] then return tree else readInto.tryRead known place

/-! ### The machine of a run -/

/-- The variables that the program reads. -/
def variableNames : List String := ["HOME", "PATH", "XDG_DATA_HOME", "LOCALAPPDATA",
  "MOONPACK_DEPLOY_DIR", "DEPLOY_DIR", "MOONPACK_OUTPUT_DIR", "BUNDLE_OUTPUT_DIR",
  "MOONPACK_TIMEOUT_MS", "MOONPACK_SEARCH_PATH"]

/-- The variables that are set. -/
def environment : IO Environment := do
  let values ← variableNames.mapM fun name => return (name, ← IO.getEnv name)
  return values.filterMap fun v => v.2.map (v.1, ·)

/-- The places that absolute paths among texts name. -/
def absolutePlaces (texts : List String) : List Place :=
  (texts.filter (Path.isAbsolute ⟨·⟩)).map steps

/-- The machine with the files that the program may look at. -/
def readMachine (args : List String) : IO Machine := do
  let env ← environment
  let cwd := steps (← IO.currentDir).toString
  let values := (env.filter (·.1 ≠ "PATH")).map (·.2)
  let places := cwd :: absolutePlaces (args ++ values.filter (· ≠ (env.get? "HOME").getD ""))
  let tree ← places.foldlM readAround Shell.installed
  return { tree, cwd, env }

/-! ### Writing files -/

/-- Writes an entry of a tree. -/
def writeEntry (place : Place) : Node → IO Unit
  | .dir => IO.FS.createDirAll (Place.path place).text
  | .file bytes _ => IO.FS.writeBinFile (Place.path place).text ⟨bytes.toArray⟩
  | .link _ | .device _ => pure ()

/-- Removes an entry of a tree. -/
def removeEntry (place : Place) : Node → IO Unit
  | .dir => IO.FS.removeDir (Place.path place).text
  | _ => IO.FS.removeFile (Place.path place).text

/-- Makes the files those of one tree where another tree differs from it. -/
def writeChanges (before after : Tree) : IO Unit := do
  let gone := before.entries.filter fun e => (after.get? e.1).isNone
  for e in gone.mergeSort fun a b => b.1.length ≤ a.1.length do
    removeEntry e.1 e.2
  let fresh := after.entries.filter fun e => before.get? e.1 ≠ some e.2
  for e in fresh.mergeSort fun a b => a.1.length ≤ b.1.length do
    writeEntry e.1 e.2

end LuaBundler.Main

/-- Runs the command line. -/
def main (args : List String) : IO UInt32 := do
  let machine ← LuaBundler.Main.readMachine args
  let ending := LuaBundler.CommandLine.run LuaBundler.Shell.commandHost machine args
  LuaBundler.Main.writeChanges machine.tree ending.machine.tree
  IO.print ending.stdout
  IO.eprint ending.stderr
  return ending.code.toUInt32
