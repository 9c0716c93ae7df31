import LuaBundler.Shell.Builtin.Basic

/-!
# Builtins: jobs and signals

Waiting for jobs, listing them, sending signals, and saying what is to be done when signals arrive.

No job is under the control of a terminal, so none can be brought to the foreground.
-/

namespace LuaBundler.Shell.Builtin

open LuaBundler.System LuaBundler.Text

/-! ### Naming jobs -/

/-- The job that a text after a percent sign means. -/
def findJob (text : String) : Sh Job := do
  let s ← Sh.get
  let orFail (reason : String) : Option Job → Sh Job
    | some j => pure j
    | none => Sh.fail reason
  match text.toList with
  | ['%'] | ['%', '+'] | ['%', '%'] => orFail "No current job" s.jobs.head?
  | ['%', '-'] => orFail "No previous job" s.jobs[1]?
  | '%' :: cs =>
    orFail ("No such job: " ++ text)
      ((decimalOf? (String.ofList cs)).bind fun n => s.jobs.find? (·.number == n))
  | _ => Sh.fail ("No such job: " ++ text)

/-! ### Waiting -/

/-- The least caught signal. -/
def leastCaught (s : Shell) : Nat :=
  (s.caught.min?).getD 0

/-- Waits until some child has ended; gives whether that happened before a signal. -/
def awaitAny (awaited : Option Nat) : Sh Bool := do
  match ← Sh.ask (.wait none true) with
  | .ok (some e) =>
    Sh.noteEnd e awaited
    return true
  | .ok none => return true
  | .error .interrupted =>
    Sh.noteSignals
    return (← Sh.get).caught.isEmpty
  | .error _ => return true

/-- Waits until a condition holds; gives whether it came to hold before a signal. -/
def awaitUntil (holds : Shell → Bool) (awaited : Option Nat) : Nat → Sh Bool
  | 0 => return true
  | steps + 1 => do
    if holds (← Sh.get) then return true
    else if ← awaitAny awaited then awaitUntil holds awaited steps
    else return false

/-- Waits for jobs one after the other. Gives the status of the last one. -/
def waitJobs (status : Nat) : List String → Sh Nat
  | [] => return status
  | text :: rest => do
    let number? ← do
      if text.startsWith "%" then pure (some (← findJob text).number)
      else
        let n ← number text
        pure (((← Sh.get).jobs.find? (·.process == n)).map (·.number))
    match number? with
    | none => waitJobs status rest
    | some n =>
      let isDone (s : Shell) : Bool := ((Sh.job? s n).map (·.isDone)).getD true
      if ← awaitUntil isDone (some n) Sh.maxWaits then
        Sh.modify fun s => { s with jobs := s.jobs.map fun j =>
          if j.number = n then { j with isWaited := true } else j }
        waitJobs (((Sh.job? (← Sh.get) n).map (·.status)).getD 0) rest
      else return 128 + leastCaught (← Sh.get)

/-- Waits for jobs, or for all of them. -/
def wait (args : List String) : Sh Nat := do
  let (_, args) ← options "" args
  Sh.noteSignals
  if args.isEmpty then
    let noneRuns (s : Shell) : Bool := s.jobs.all (·.isDone)
    if ← awaitUntil noneRuns none Sh.maxWaits then
      Sh.collectEnds Sh.maxWaits none
      Sh.modify fun s => { s with jobs := s.jobs.map fun j => { j with isWaited := true } }
      return 0
    else return 128 + leastCaught (← Sh.get)
  else waitJobs 127 args

/-! ### Listing -/

/-- How a job stands. -/
def jobState (j : Job) : String :=
  if !j.isDone then "Running"
  else match j.members.getLast?.bind (·.ended?) with
    | none => "Done"
    | some e =>
      match e.signal? with
      | some n => (signalTexts.lookup n).getD (if n = 2 then "Interrupt"
          else if n = 13 then "Broken pipe" else "Unknown signal " ++ decimal n)
      | none => if e.code = 0 then "Done" else "Done(" ++ decimal e.code ++ ")"

/-- A text with spaces after it up to a column, and one at least. -/
def upTo (column : Nat) (text : String) : String :=
  text ++ String.ofList (List.replicate (max 1 (column - text.length)) ' ')

/-- The lines about a job; `sign` tells the current job and the one before it. -/
def jobLines (sign : String) (withProcesses : Bool) (j : Job) : String :=
  let start := "[" ++ decimal j.number ++ "] " ++ sign ++ " "
  let column := 33
  if withProcesses then
    match j.members with
    | [] => ""
    | m :: ms =>
      upTo column (start ++ decimal m.process ++ " " ++ jobState j) ++
        "".intercalate (ms.map fun m => " |\n" ++
          upTo (column + 3) (String.ofList (List.replicate start.length ' ') ++ decimal m.process ++
            " ")) ++ "\n"
  else upTo column (start ++ jobState j) ++
    "".intercalate (j.members.drop 1 |>.map fun _ => " | ") ++ "\n"

/-- Shows a job, and forgets it if it is done. -/
def showJob (mode : Option Char) (j : Job) : Sh Unit := do
  let s ← Sh.get
  let sign := if (s.jobs.head?.map (·.number)) = some j.number then "+"
    else if (s.jobs[1]?.map (·.number)) = some j.number then "-" else " "
  if mode = some 'p' then
    Sh.print (decimal ((j.members.head?.map (·.process)).getD 0) ++ "\n")
  else
    Sh.print (jobLines sign (mode = some 'l') j)
    if j.isDone then Sh.dropJob j.number

/-- Lists jobs. -/
def jobs (args : List String) : Sh Nat := do
  let (opts, args) ← options "lp" args
  let mode := opts.getLast?.map (·.1)
  if args.isEmpty then
    Sh.collectEnds Sh.maxWaits none
    for j in (← Sh.get).jobs do
      showJob mode j
  else
    for a in args do
      showJob mode (← findJob a)
  return 0

/-- Refuses to bring a job to the foreground or background. -/
def resumeJob (args : List String) : Sh Nat := do
  let (_, args) ← options "" args
  let text := args.head?.getD "%"
  let _ ← findJob text
  Sh.fail ("job " ++ (if args.isEmpty then "(null)" else text) ++ " not created under job control")

/-! ### Sending signals -/

/-- How to send signals. -/
def killUsage : String :=
  "Usage: kill [-s sigspec | -signum | -sigspec] [pid | job]... or\nkill -l [exitstatus]"

/-- Lists signals, or names one by its number or the status that it leads to. -/
def listSignals (args : List String) : Sh Nat := do
  match args with
  | [] =>
    Sh.print "0\n"
    for name in signalList.drop 1 do
      Sh.print (name ++ "\n")
    return 0
  | a :: _ =>
    let n ← number a
    let n := if 128 < n then n - 128 else n
    match signalList[n]? with
    | some name =>
      if n = 0 then Sh.fail ("invalid signal number or exit status: " ++ a)
      else
        Sh.print (name ++ "\n")
        return 0
    | none => Sh.fail ("invalid signal number or exit status: " ++ a)

/-- The process, or the group below zero, that an argument means. -/
def signalTarget (text : String) : Sh Int := do
  match text.toList with
  | '%' :: _ =>
    let j ← findJob text
    return -((j.members.head?.map (·.process)).getD 0 : Nat)
  | '-' :: cs => return -(← number (String.ofList cs) : Nat)
  | _ => return (← number text : Nat)

/-- Sends a signal to targets one after the other. -/
def sendAll (signal : Nat) (status : Nat) : List String → Sh Nat
  | [] => return status
  | text :: rest => do
    match ← Sh.ask (.send (← signalTarget text) signal) with
    | .ok _ => sendAll signal status rest
    | .error e =>
      Sh.complain (e.reason ++ "\n")
      sendAll signal 1 rest

/-- The last signal that options name. -/
def namedSignal (found : Option Nat) : List (Char × String) → Sh (Option Nat)
  | [] => return found
  | ('s', name) :: rest => do
    match signal? name 1 with
    | some n => namedSignal (some n) rest
    | none => Sh.fail ("invalid signal number or name: " ++ name)
  | _ :: rest => namedSignal found rest

/-- Sends signals, or lists them. -/
def kill (args : List String) : Sh Nat := do
  let (signal?, isList, targets) ← match args with
    | a :: rest =>
      match a.toList with
      | '-' :: cs =>
        match signal? (String.ofList cs) 1 with
        | some n => pure (some n, false, rest)
        | none => do
          let (opts, rest) ← options "ls:" args
          let found ← namedSignal none opts
          pure (found, opts.any (·.1 == 'l'), rest)
      | _ => pure (none, false, args)
    | [] => Sh.fail killUsage
  if isList then
    if signal?.isSome then Sh.fail killUsage else listSignals targets
  else if targets.isEmpty then Sh.fail killUsage
  else sendAll (signal?.getD sigterm) 0 targets

/-! ### Traps -/

/-- Sets what is done on a signal. -/
def setTrap (signal : Nat) (action? : Option String) : Sh Unit := do
  Sh.modify fun s =>
    let rest := s.traps.filter (·.1 != signal)
    { s with traps := match action? with
      | some action => (signal, action) :: rest
      | none => rest }
  if signal ≠ 0 ∧ !(← Sh.get).ignored.contains signal then
    Sh.ask (.react signal (match action? with
      | some "" => .ignore
      | some _ => .catch
      | none => .usual))

/-- Sets what is done on signals, one after the other. -/
def setTraps (action? : Option String) : List String → Sh Nat
  | [] => return 0
  | text :: rest => do
    match signal? text 0 with
    | some signal =>
      setTrap signal action?
      setTraps action? rest
    | none =>
      Sh.writeError ("trap: " ++ text ++ ": bad trap\n")
      return 1

/-- Says what is to be done on signals, or shows it. -/
def trap (args : List String) : Sh Nat := do
  let (_, args) ← options "" args
  match args with
  | [] =>
    let s ← Sh.get
    for (signal, action) in s.traps.mergeSort (fun a b => a.1 ≤ b.1) do
      Sh.print ("trap -- " ++ quoted action ++ " " ++ signalList.getD signal "" ++ "\n")
    return 0
  | [signal] => setTraps none [signal]
  | first :: rest =>
    if (signalNumber? first).isSome then setTraps none args
    else setTraps (if first = "-" then none else some first) rest

/-- Shows the time that was used. -/
def times : Sh Nat := do
  Sh.print "0m0.000000s 0m0.000000s\n0m0.000000s 0m0.000000s\n"
  return 0

end LuaBundler.Shell.Builtin
