import LuaBundler.Shell.State

/-!
# Jobs

A shell runs what is not its own in children, and remembers together those that were started
together. The status of a job is that of its last member.

A signal that ends a member of a job that the shell waits for is announced, unless it is one of
those that end programs in the normal course of things.
-/

namespace LuaBundler.Shell

open LuaBundler.System LuaBundler.Text

/-- What a child is for. -/
inductive ChildKind where
  | foreground
  | background
  /-- To find a value. -/
  | nested
  deriving DecidableEq

/-! ### How members end -/

/-- The status that a process has for the shell that waits for it. -/
def Ended.status (e : Ended) : Nat :=
  match e.signal? with
  | some signal => 128 + signal
  | none => e.code

/-- How signals that end processes are announced. -/
def signalTexts : List (Nat × String) := [(1, "Hangup"), (3, "Quit"), (4, "Illegal instruction"),
  (5, "Trace/breakpoint trap"), (6, "Aborted"), (7, "Bus error"), (8, "Floating point exception"),
  (9, "Killed"), (10, "User defined signal 1"), (11, "Segmentation fault"),
  (12, "User defined signal 2"), (14, "Alarm clock"), (15, "Terminated"), (16, "Stack fault"),
  (24, "CPU time limit exceeded"), (25, "File size limit exceeded"),
  (26, "Virtual timer expired"), (27, "Profiling timer expired"), (29, "I/O possible"),
  (30, "Power failure"), (31, "Bad system call")]

/-- How the end of a process is announced, if it is. -/
def announcement? (e : Ended) : Option String :=
  e.signal?.bind fun n =>
    if n = 2 ∨ n = 13 then none
    else some ((signalTexts.lookup n).getD ("Unknown signal " ++ decimal n))

namespace Job

/-- Whether all members of a job have ended. -/
def isDone (j : Job) : Bool :=
  j.members.all (·.ended?.isSome)

/-- The status of a job. -/
def status (j : Job) : Nat :=
  match j.members.getLast?.bind (·.ended?) with
  | some e => Ended.status e
  | none => 0

/-- The process that a job is known by. -/
def process (j : Job) : Nat :=
  (j.members.getLast?.map (·.process)).getD 0

/-- The job after the end of a process. -/
def note (j : Job) (e : Ended) : Job :=
  { j with members := j.members.map fun m =>
      if m.process = e.process then { m with ended? := some e } else m }

end Job

namespace Sh

/-! ### Starting -/

/-- The least number that no job has. -/
def freeJobNumber (s : Shell) : Nat :=
  Proc.leastFree (s.jobs.map (·.number)) 1

/-- A new job without members. Jobs that are done and have been asked about are forgotten. -/
def newJob : Sh Nat := do
  let s ← get
  let s := { s with jobs := s.jobs.filter fun j => !(j.isDone && j.isWaited && !j.members.isEmpty) }
  let number := freeJobNumber s
  set { s with jobs := ⟨number, [], false⟩ :: s.jobs }
  return number

/-- The job of a number. -/
def job? (s : Shell) (number : Nat) : Option Job :=
  s.jobs.find? (·.number == number)

/-- Forgets a job. -/
def dropJob (number : Nat) : Sh Unit :=
  modify fun s => { s with jobs := s.jobs.filter (·.number != number) }

/-- The reactions of a shell to signals that it catches are the usual ones in a child. -/
def resetTraps : Sh Unit := do
  let s ← get
  for (signal, action) in s.traps do
    if action ≠ "" ∧ signal ≠ 0 then ask (.react signal .usual)
  modify fun s => { s with traps := s.traps.filter (·.2 == ""), caught := [] }

/-- What a child does first. -/
def enterChild (kind : ChildKind) (isFirst : Bool) : Sh Unit := do
  modify fun s => { s with level := s.level + 1, jobs := [] }
  resetTraps
  match (← get).script? with
  | some number =>
    discard (ask (.close number))
    modify fun s => { s with script? := none }
  | none => pure ()
  if kind = .background then
    ask (.react 2 .ignore)
    ask (.react 3 .ignore)
    if isFirst then
      discard (ask (.close 0))
      discard (ask (.open "/dev/null" { read := true }))

/-- Starts a child as a member of a job. -/
def spawn (number : Nat) (kind : ChildKind) (child : Sh Nat) : Sh Unit := do
  let isFirst := ((job? (← get) number).map (·.members.isEmpty)).getD true
  discard flush
  let id ← fork do
    enterChild kind isFirst
    child
  modify fun s => { s with
    lastBackground := if kind = .background then id else s.lastBackground
    jobs := s.jobs.map fun j =>
      if j.number = number then { j with members := j.members ++ [⟨id, none⟩] } else j }

/-! ### Signals -/

/-- Takes note of the caught signals that have arrived. -/
def noteSignals : Sh Unit := do
  if (← get).traps.any fun t => t.2 ≠ "" && t.1 ≠ 0 then
    let signals : List Nat ← ask .arrivals
    if !signals.isEmpty then modify fun s => { s with caught := s.caught ++ signals }

/-! ### Waiting -/

/-- Takes note of the end of a process. If its job is the one that is waited for, a signal that
ended it is announced. -/
def noteEnd (e : Ended) (awaited : Option Nat) : Sh Unit := do
  modify fun s => { s with jobs := s.jobs.map (·.note e) }
  match awaited with
  | none => pure ()
  | some number =>
    match job? (← get) number with
    | none => pure ()
    | some j =>
      if j.members.any (·.process == e.process) then
        match announcement? e with
        | some text => writeError (text ++ "\n")
        | none => pure ()

/-- How often the shell looks for the end of a child at most. -/
def maxWaits : Nat := 1000000000

/-- Waits until a job is done. Signals that arrive meanwhile are only noted. -/
def awaitWithin (number : Nat) : Nat → Sh Unit
  | 0 => pure ()
  | steps + 1 => do
    match job? (← get) number with
    | none => pure ()
    | some j =>
      if j.isDone then pure ()
      else
        match ← ask (.wait none true) with
        | .ok (some e) =>
          noteEnd e (some number)
          awaitWithin number steps
        | .ok none => awaitWithin number steps
        | .error .interrupted =>
          noteSignals
          awaitWithin number steps
        | .error _ => pure ()

/-- Waits until a job is done, forgets it, and gives its status. -/
def await (number : Nat) : Sh Nat := do
  awaitWithin number maxWaits
  let status := ((job? (← get) number).map Job.status).getD 0
  dropJob number
  return status

/-- Takes note of the ends of children that have come already. -/
def collectEnds : Nat → Option Nat → Sh Unit
  | 0, _ => pure ()
  | steps + 1, awaited => do
    match ← ask (.wait none false) with
    | .ok (some e) =>
      noteEnd e awaited
      collectEnds steps awaited
    | _ => pure ()

end Sh

end LuaBundler.Shell
