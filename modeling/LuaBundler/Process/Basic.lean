import LuaBundler.Duration
import LuaBundler.Files.Machine
import LuaBundler.Text.Split

/-!
# Running programs

A host runs a command on a machine under a time limit and says how it ended, what it wrote, and what
the files are afterwards; or why it could not be started. Nothing else is assumed of a host, so what
holds for every host holds whatever the programs do.
-/

namespace LuaBundler.Process

open Files Text

/-! ### How a program ends -/

/-- How a program that ended by itself ended. -/
inductive ExitStatus where
  | code (n : Nat)
  | signal (n : Nat)
  deriving Repr, DecidableEq

/-- The signals by number, from 1. -/
def signalNames : List String := ["HUP", "INT", "QUIT", "ILL", "TRAP", "ABRT", "BUS", "FPE", "KILL",
  "USR1", "SEGV", "USR2", "PIPE", "ALRM", "TERM", "STKFLT", "CHLD", "CONT", "STOP", "TSTP", "TTIN",
  "TTOU", "URG", "XCPU", "XFSZ", "VTALRM", "PROF", "WINCH", "IO", "PWR", "SYS"]

namespace ExitStatus

/-- Whether a program ended as it should. -/
def isSuccess : ExitStatus → Bool
  | code 0 => true
  | _ => false

/-- The name of a signal after its number. -/
def signalNote (n : Nat) : String :=
  match signalNames[n - 1]? with
  | some name => if n = 0 then "" else " (SIG" ++ name ++ ")"
  | none => ""

/-- How an exit status is written. -/
def text : ExitStatus → String
  | code n => "exit status: " ++ decimal n
  | signal n => "signal: " ++ decimal n ++ signalNote n

theorem isSuccess_iff (s : ExitStatus) : s.isSuccess = true ↔ s = code 0 := by
  cases s with
  | code n => cases n <;> simp [isSuccess]
  | signal n => simp [isSuccess]

end ExitStatus

/-- How a run ended. -/
inductive Exit where
  | exited (status : ExitStatus)
  | waitFailed (cause : FileError)
  | timedOut
  deriving Repr, DecidableEq

/-! ### Commands -/

/-- What happens when a command takes too long. -/
inductive Limit where
  /-- It is killed, and its output has to be complete in time as well. -/
  | kill (timeout : Duration)
  /-- It is asked to end, and killed after a grace period; output that is held open longer than the
  grace period is given up. -/
  | terminate (timeout grace : Duration)
  deriving Repr, DecidableEq

/-- What to run. -/
inductive Program where
  /-- The program that this library is, run once more. -/
  | self
  /-- A path, or a name to look up. -/
  | named (text : String)
  deriving Repr, DecidableEq

/-- How a program is called in messages. -/
def Program.text : Program → String
  | self => "moonpack"
  | named text => text

/-- A program with its arguments, variables set for it, and its limit. -/
structure Command where
  program : Program
  args : List String
  env : List (String × String)
  limit : Limit
  deriving Repr, DecidableEq

/-- A run of a command. -/
structure Run where
  exit : Exit
  stdout : Bytes
  stderr : Bytes
  /-- The files after the run. -/
  tree : Tree
  deriving Repr, DecidableEq

/-- What programs run on. -/
structure Host where
  /-- Runs a command, or says why it cannot be started. -/
  run : Machine → Command → Except FileError Run

/-! ### Finding programs

A name of one component is looked up in the directories of the `PATH` variable, of which one that
starts with `~` is taken from the home directory. What is found is an executable file, and its path
is made absolute. -/

/-- Whether a path leads to a file that may be run. -/
def isExecutable (m : Machine) (p : Path) : Bool :=
  match m.entryAt? p with
  | .ok (_, .file _ executable) => executable
  | _ => false

/-- The directories that programs are looked up in. -/
def programDirs (env : Environment) : List Path :=
  match env.get? "PATH" with
  | some dirs => (pieces ':' dirs).map Path.mk
  | none => []

/-- A path of more than one component from a directory, a leading dot left out. -/
def fromDir (dir p : Path) : Path :=
  if p.isAbsolute then p
  else match p.components with
    | .current :: rest => dir.extend rest
    | all => dir.extend all

/-- A directory with a leading `~` replaced by the home directory, if there is one. -/
def expandHome (env : Environment) (dir : Path) : Path :=
  match dir.components with
  | .name "~" :: rest =>
    match env.nonempty? "HOME" with
    | some home => Path.extend ⟨home⟩ rest
    | none => dir
  | _ => dir

/-- Where a path or a name is looked for. -/
def candidates (m : Machine) (program : Path) : List Path :=
  if 1 < program.components.length then [program]
  else (programDirs m.env).map fun dir => (expandHome m.env dir).join program

/-- The program that a path or a name stands for. -/
def which? (m : Machine) (program : Path) : Option Path :=
  ((candidates m program).map (fromDir (Place.path m.cwd))).find? (isExecutable m)

end LuaBundler.Process
