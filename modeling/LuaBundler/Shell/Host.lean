import LuaBundler.CommandLine.Execution
import LuaBundler.Shell.Startup
import LuaBundler.System.Service
import LuaBundler.Utility.Table

/-!
# A host for scripts

This host runs shell scripts and the utilities that they use, and the library itself when it is to
be run once more. Time on it is the clock of the system that a run is laid out on, so a run is a
function of its inputs.

A run starts one process, and ends when that process has ended and what it wrote has been taken, or
when its limit says so.
-/

namespace LuaBundler.Shell

open LuaBundler.Files LuaBundler.Process LuaBundler.System LuaBundler.Text

/-! ### Utilities -/

/-- The name of the shell's own file. -/
def shellName : String := "dash"

/-- What a utility does. -/
def utilityTask (utility : String) (args env : List String) : Task :=
  let name := args.headD utility
  if utility = shellName then (program name (args.drop 1) env).task
  else match Utility.programs.lookup utility with
    | some p => (p ⟨name, args.drop 1, env⟩).task
    | none => .exit 127

/-! ### Starting -/

/-- The number of the process that a run starts. -/
def rootId : Nat := 1000

/-- The numbers of the sinks that the process writes its output and its errors to. -/
def outputSink : Nat := 0

/-- The sink of errors. -/
def errorSink : Nat := 1

/-- A variable and its value as programs get them. -/
def envEntry (v : String × String) : String :=
  octets (v.1 ++ "=" ++ v.2)

/-- The directory that a machine works in, on a disk. -/
def cwdOn (d : Disk) (m : Machine) : Nat :=
  match d.locate Disk.root true ("/" ++ "/".intercalate (m.cwd.map octets)) with
  | .ok n => n
  | .error _ => Disk.root

/-- The system of a machine, with a process that is still to become a program. -/
def layOut (m : Machine) : Kernel × Proc :=
  let disk := Disk.ofTree m.tree
  let k : Kernel := {
    disk
    sinks := #[{}, {}]
    nextId := rootId + 1
    utility := utilityTask }
  let null := match disk.locate Disk.root true "/dev/null" with
    | .ok n => n
    | .error _ => Disk.root
  let (k, input) := k.addFile { channel := .node null, readable := true, writable := false }
  let (k, output) := k.addFile { channel := .sink outputSink, readable := false, writable := true }
  let (k, errors) := k.addFile { channel := .sink errorSink, readable := false, writable := true }
  let p : Proc := {
    id := rootId, parent := 0, group := rootId, task := .exit 0, ready := 0
    slots := [(0, ⟨input, false⟩), (1, ⟨output, false⟩), (2, ⟨errors, false⟩)]
    cwd := cwdOn disk m }
  ({ k with procs := [p] }, p)

/-- What a program is that is started by its path; if `tolerant`, a file of no executable format is
a script for the shell. -/
def imageAt (k : Kernel) (p : Proc) (tolerant : Bool) (args env : List String) (path : String) :
    Except FileError Image :=
  match image (k.programHead p) path args env with
  | .error .execFormat =>
    if tolerant then
      image (k.programHead p) fallbackShell (fallbackArgs path args) env
    else .error .execFormat
  | found => found

/-- The first program among paths. -/
def imageAmong (k : Kernel) (p : Proc) (tolerant : Bool) (args env : List String) :
    FileError → List String → Except FileError Image
  | failure, [] => .error failure
  | failure, path :: paths =>
    match imageAt k p tolerant args env path with
    | .ok found => .ok found
    | .error e =>
      if isPassedOver e then imageAmong k p tolerant args env (worse failure e) paths else .error e

/-- What runs in the end if a program is started: a path if it has a slash, and else a name that is
looked up in the directories of a search path. -/
def imageOf (k : Kernel) (p : Proc) (tolerant : Bool) (searchPath : Option String)
    (args env : List String) : Except FileError Image :=
  let name := args.headD ""
  if name = "" then .error .notFound
  else if '/' ∈ name.toList then imageAt k p tolerant args env name
  else if maxName < name.length then .error .nameTooLong
  else imageAmong k p tolerant args env .notFound (programPaths searchPath name)

/-- The system that a command runs on, with its process about to start. A name that is looked up by
a search path of the command's own may be that of a script without an interpreter. -/
def boot (m : Machine) (c : Process.Command) (name : String) : Except FileError Kernel := do
  let (k, p) := layOut m
  let vars := m.env.setAll c.env
  let vars := if c.env.isEmpty then vars else vars.mergeSort fun a b => a.1 ≤ b.1
  let hasPath := c.env.any (·.1 == "PATH")
  let env := vars.map envEntry
  let args := (name :: c.args).map octets
  let searchPath := (if hasPath then vars else m.env).get? "PATH" |>.map octets
  let found ← imageOf k p (hasPath && !name.toList.contains '/') searchPath args env
  return k.update { p with task := utilityTask found.utility found.args env, ready := launchTime }
where
  /-- How long it takes to start a program. -/
  launchTime : Nat := Kernel.launchTime

/-! ### Following a run -/

/-- How the process of a run ended, and when. -/
def rootEnd? (k : Kernel) : Option (ExitStatus × Nat) := do
  let p ← k.proc? rootId
  return (← p.ended?, p.ready)

/-- Whether the process of a run has ended. -/
def isEnded (k : Kernel) : Bool :=
  (rootEnd? k).isSome

/-- Whether a sink has been closed by a time. -/
def isClosed (k : Kernel) (sink time : Nat) : Bool :=
  (k.sinks.getD sink {}).isClosedBy time

/-- Whether all that a run writes has been written. -/
def isSilent (k : Kernel) : Bool :=
  (k.sinks.getD outputSink {}).closed?.isSome && (k.sinks.getD errorSink {}).closed?.isSome

/-- What was written to a sink that was closed by a time; nothing if it was not. -/
def collected (k : Kernel) (sink time : Nat) : Bytes :=
  if isClosed k sink time then (k.sinks.getD sink {}).bytes else []

/-- A run as it is seen when its streams are given up at a time. -/
def runOf (exit : Exit) (k : Kernel) (time : Nat) : Run :=
  ⟨exit, collected k outputSink time, collected k errorSink time, k.disk.toTree⟩

/-- Sends a signal to the group of a run. -/
def signalGroup (k : Kernel) (signal time : Nat) : Kernel :=
  let group := (k.procs.filter fun p => p.group = rootId && p.ended?.isNone).map (·.id)
  group.foldl (fun k id => k.deliver signal time id) k

/-- How long streams are read at least, in microseconds. -/
def minDrain : Nat := 50000

/-- Follows a run that is killed if it, or what holds its streams, takes too long. -/
def followKilling (k : Kernel) (timeout : Nat) : Run :=
  let k := k.advance (fun k => isEnded k && isSilent k) timeout
  match rootEnd? k with
  | some (status, _) =>
    if isSilent k then runOf (.exited status) k timeout else runOf .timedOut k timeout
  | none => runOf .timedOut k timeout

/-- Follows a run that is asked to end if it takes too long, and killed later. -/
def followTerminating (k : Kernel) (timeout grace : Nat) : Run :=
  let k := k.advance isEnded timeout
  match rootEnd? k with
  | some (status, time) =>
    let k := k.advance isSilent (time + grace)
    runOf (.exited status) k (time + grace)
  | none =>
    let last := timeout + grace
    let k := (signalGroup k sigterm timeout).advance isEnded last
    let (k, time) := match rootEnd? k with
      | some (_, time) => (k, time)
      | none => (signalGroup k sigkill last, last)
    let deadline := max last (time + minDrain)
    runOf .timedOut (k.advance isSilent deadline) deadline

/-- Follows a run under a limit. -/
def follow (k : Kernel) : Limit → Run
  | .kill timeout => followKilling k timeout.micros
  | .terminate timeout grace => followTerminating k timeout.micros grace.micros

/-! ### The library once more -/

/-- How long the library takes when it is run once more, in microseconds. -/
def againTime : Nat := 2000

/-- The limit of a command in microseconds. -/
def limitMicros : Limit → Nat
  | .kill timeout => timeout.micros
  | .terminate timeout _ => timeout.micros

/-- How the library ends when it is run once more with arguments: its status, and what it writes. -/
abbrev Again := Machine → List String → CommandLine.Ending

/-- What the built-in worker does with its arguments, whatever they are. -/
def workerAgain : Again := fun m args =>
  CommandLine.workerEnding m ⟨args.getD 1 ""⟩ (args.getD 2 "")

/-- What the command line does that runs the built-in worker, which starts no programs. -/
def commandAgain : Again :=
  CommandLine.run ⟨fun _ _ => .error .notFound⟩

/-- Runs the library once more. -/
def runAgain (again : Again) (m : Machine) (args : List String) (limit : Limit) : Run :=
  if limitMicros limit ≤ againTime then ⟨.timedOut, [], [], m.tree⟩
  else
    let ending := again m args
    ⟨.exited (.code ending.code), encodeString ending.stdout, encodeString ending.stderr, m.tree⟩

/-! ### The host -/

/-- Whether a command has a NUL character, which no program can be given. -/
def hasNul (c : Process.Command) : Bool :=
  (c.program.text :: c.args ++ c.env.flatMap fun v => [v.1, v.2]).any fun s => '\x00' ∈ s.toList

/-- Runs a command. -/
def runCommand (again : Again) (m : Machine) (c : Process.Command) : Except FileError Run := do
  if hasNul c then .error .nulInArgument
  else match c.program with
    | .self => return runAgain again { m with env := m.env.setAll c.env } c.args c.limit
    | .named name => return follow (← boot m c name) c.limit

/-- The host that runs scripts, and the library itself as the built-in worker. -/
def host : Host := ⟨runCommand workerAgain⟩

/-- The host that runs scripts, and the library itself as a command. -/
def commandHost : Host := ⟨runCommand commandAgain⟩

/-! ### Installed programs -/

/-- The utilities that are installed. -/
def utilities : List String :=
  shellName :: Utility.programs.map (·.1)

/-- A tree with the utilities in their usual directories, and the devices. -/
def installed : Tree :=
  let dirs : List Place := [["usr"], ["usr", "bin"], ["dev"], ["etc"], ["home"], ["root"], ["tmp"],
    ["var"]]
  ⟨dirs.map (·, .dir) ++ [(["bin"], .link "usr/bin"), (["usr", "bin", "sh"], .link shellName),
    (["dev", "null"], .device .null),
    (["dev", "zero"], .device .zero), (["dev", "full"], .device .full)] ++
    utilities.map fun name => (["usr", "bin", name], .file (utilityContents name) true)⟩

end LuaBundler.Shell
