import LuaBundler.Shell.Arithmetic
import LuaBundler.Shell.Grammar
import LuaBundler.System.Process

/-!
# The state of a shell

What a shell remembers from one command to the next, and the actions that it is made of: an action
of a shell changes its state, asks the system, and goes on or leaves (`Leave`) for whoever catches
that.

Texts are octet texts.
-/

namespace LuaBundler.Shell

open LuaBundler.System LuaBundler.Text

/-! ### What a shell remembers -/

/-- A variable; one without a value may still be exported or not be set any more. -/
structure Variable where
  value? : Option String
  isExported : Bool := false
  isReadonly : Bool := false

/-- A process of a job, and how it ended. -/
structure Member where
  process : Nat
  ended? : Option Ended := none

/-- A job: the processes that were started together. -/
structure Job where
  number : Nat
  members : List Member
  /-- Whether its end has been asked for. -/
  isWaited : Bool := false

/-- How commands are being left. -/
inductive Skip where
  | none
  | leaveLoops (count : Nat)
  | nextRound (count : Nat)
  /-- With whether a status was given. -/
  | leaveFunction (hasStatus : Bool)
  deriving DecidableEq

/-- A program that has been found before: which of the directories it was in, and whether the
working directory has changed since. -/
structure Located where
  index : Nat
  isStale : Bool := false

/-- What a number stood for before a redirection: a copy of it under another number, or nothing. -/
abbrev Saved := List (Nat × Option Nat)

/-- The options of a shell in the order in which they are listed, with their letters. -/
def optionNames : List (String × Option Char) := [("errexit", some 'e'), ("noglob", some 'f'),
  ("ignoreeof", some 'I'), ("interactive", some 'i'), ("monitor", some 'm'), ("noexec", some 'n'),
  ("stdin", some 's'), ("xtrace", some 'x'), ("verbose", some 'v'), ("vi", some 'V'),
  ("emacs", some 'E'), ("noclobber", some 'C'), ("allexport", some 'a'), ("notify", some 'b'),
  ("nounset", some 'u'), ("privileged", some 'p'), ("nolog", none), ("debug", none)]

/-- The state of a shell. -/
structure Shell where
  name : String
  /-- The names of the options that are set. -/
  options : List String := []
  vars : List (String × Variable) := []
  params : List String := []
  functions : List (String × Node) := []
  aliases : List (String × String) := []
  /-- The programs that have been found. -/
  located : List (String × Located) := []
  /-- What to do on a signal, with 0 for the end of the shell. -/
  traps : List (Nat × String) := []
  /-- The signals that were ignored from the start. -/
  ignored : List Nat := []
  /-- The caught signals that wait for their traps. -/
  caught : List Nat := []
  status : Nat := 0
  /-- The status of the last nested command of the command that runs. -/
  nestedStatus : Nat := 0
  /-- The status to end with, while a trap runs. -/
  savedStatus? : Option Nat := none
  rootProcess : Nat := 0
  lastBackground : Nat := 0
  jobs : List Job := []
  /-- The line that complaints name, and the builtin that they name. -/
  line : Nat := 1
  command? : Option String := none
  skip : Skip := .none
  loops : Nat := 0
  /-- How many functions are running, and how many texts and files are being run. -/
  functionDepth : Nat := 0
  textDepth : Nat := 0
  /-- The variables to restore when functions end. -/
  locals : List (List (String × Option Variable)) := []
  /-- What redirections have saved, the last ones first. -/
  redirects : List Saved := []
  /-- What a builtin has printed. -/
  printed : String := ""
  cwd : String := ""
  /-- The file that the script is read from, if it is not a text. -/
  script? : Option Nat := none
  /-- How many times the shell has been split off. -/
  level : Nat := 0
  /-- Where in the arguments options are being looked for. -/
  nextOption : Nat := 1
  optionOffset : Nat := 0
  /-- Whether a trace is being expanded. -/
  inTrace : Bool := false

/-- Why a shell leaves what it does. -/
inductive Leave where
  | error
  | exit
  /-- The end of what a process has to do. -/
  | finished
  deriving DecidableEq

/-! ### Actions -/

/-- An action of a shell. -/
def Sh (α : Type) : Type :=
  (Leave → Shell → Task) → (α → Shell → Task) → Shell → Task

namespace Sh

instance : Monad Sh where
  pure a := fun _ ok s => ok a s
  bind x f := fun fail ok s => x fail (fun a s => f a fail ok s) s

/-- The state. -/
def get : Sh Shell := fun _ ok s => ok s s

/-- Replaces the state. -/
def set (s : Shell) : Sh Unit := fun _ ok _ => ok () s

/-- Changes the state. -/
def modify (f : Shell → Shell) : Sh Unit := fun _ ok s => ok () (f s)

/-- Leaves. -/
def leave {α : Type} (l : Leave) : Sh α := fun fail _ s => fail l s

/-- Does an action; if it leaves, says how instead. -/
def attempt {α : Type} (x : Sh α) : Sh (Except Leave α) :=
  fun _ ok s => x (fun l s => ok (.error l) s) (fun a s => ok (.ok a) s) s

/-- An action that does not touch the state. -/
def lift {α : Type} (a : Action α) : Sh α := fun _ ok s => a fun x => ok x s

/-- Asks the system. -/
def ask (r : Request) : Sh r.Answer := fun _ ok s => .call r fun a => ok a s

/-- Ends the process. -/
def exit {α : Type} (status : Nat) : Sh α := fun _ _ _ => .exit status

/-- Splits off a child, which does an action of its own and never comes back, and gives its
number. -/
def fork (child : Sh Nat) : Sh Nat :=
  fun _ ok s => .fork (child (fun _ s => .exit s.status) (fun n _ => .exit n) s) fun id => ok id s

instance : LawfulMonad Sh := .mk' Sh (fun _ => rfl) (fun _ _ => rfl) (fun _ _ _ => rfl)

/-! ### Writing -/

/-- Writes all of a text; gives whether that worked. -/
def writeAll : Nat → Nat → ByteArray → Sh Bool
  | 0, _, _ => return false
  | steps + 1, number, bytes => do
    if bytes.size = 0 then return true
    match ← ask (.write number bytes) with
    | .ok n => if bytes.size ≤ n then return true else writeAll steps number (bytes.extract n bytes.size)
    | .error .interrupted => writeAll steps number bytes
    | .error _ => return false

/-- How often writing goes on at most. -/
def maxWrites : Nat := 1000000000

/-- Writes a text to a number. -/
def writeTo (number : Nat) (text : String) : Sh Bool :=
  writeAll maxWrites number (arrayOfOctets text)

/-- Prints a text when the builtin that runs has ended. -/
def print (text : String) : Sh Unit :=
  modify fun s => { s with printed := s.printed ++ text }

/-- Writes what has been printed; gives whether that worked. -/
def flush : Sh Bool := do
  let s ← get
  if s.printed = "" then return true
  else
    set { s with printed := "" }
    writeTo 1 s.printed

/-- Writes a text to the error stream. -/
def writeError (text : String) : Sh Unit :=
  discard (writeTo 2 text)

/-- How a complaint of a shell starts. -/
def complaintStart (s : Shell) : String :=
  s.name ++ ": " ++ decimal s.line ++ ": " ++
    match s.command? with
    | some c => c ++ ": "
    | none => ""

/-- Complains. -/
def complain (reason : String) : Sh Unit := do
  writeError (complaintStart (← get) ++ reason ++ "\n")

/-- Sets the status. -/
def setStatus (status : Nat) : Sh Unit :=
  modify fun s => { s with status }

/-- Complains and leaves. -/
def fail {α : Type} (reason : String) : Sh α := do
  setStatus 2
  complain reason
  discard flush
  leave .error

end Sh

/-! ### Options and variables -/

namespace Shell

/-- Whether an option is set. -/
def has (s : Shell) (option : String) : Bool :=
  s.options.contains option

/-- The options that are set, by their letters. -/
def optionLetters (s : Shell) : String :=
  String.ofList (optionNames.reverse.filterMap fun o => if s.has o.1 then o.2 else none)

/-- The value of a variable. -/
def get? (s : Shell) (name : String) : Option String :=
  (s.vars.lookup name).bind (·.value?)

/-- A list with the entry of a name changed, or one more entry at the end. -/
def putEntry {α : Type} (name : String) (a : α) : List (String × α) → List (String × α)
  | [] => [(name, a)]
  | e :: es => if e.1 = name then (name, a) :: es else e :: putEntry name a es

/-- A list without the entry of a name. -/
def dropEntry {α : Type} (name : String) (es : List (String × α)) : List (String × α) :=
  es.filter (·.1 != name)

/-- Puts a variable. -/
def putVar (s : Shell) (name : String) (v : Variable) : Shell :=
  { s with vars := putEntry name v s.vars }

/-- The characters that fields are split at. -/
def separators (s : Shell) : List Char :=
  match s.get? "IFS" with
  | some text => text.toList
  | none => [' ', '\t', '\n']

/-- The number of the chain that a name is kept in, of so many chains. -/
def chainOf (count : Nat) (name : String) : Nat :=
  let cs := name.toList
  ((cs.head?.elim 0 fun c => c.toNat * 16) + cs.foldl (fun n c => n + c.toNat) 0) % count

/-- The variables that programs get, chain by chain. -/
def environment (s : Shell) : List String :=
  let exported := s.vars.filterMap fun v =>
    if v.2.isExported then v.2.value?.map fun value => (chainOf 39 v.1, v.1 ++ "=" ++ value) else none
  (exported.mergeSort fun a b => a.1 ≤ b.1).map (·.2)

/-- The variables by name. -/
def sortedVars (s : Shell) : List (String × Variable) :=
  s.vars.mergeSort fun a b => a.1 ≤ b.1

end Shell

namespace Sh

/-- Whether an option is set. -/
def has (option : String) : Sh Bool := do
  return (← get).has option

/-- Fails if a variable must not be changed. -/
def checkWritable (name : String) : Sh Unit := do
  match (← get).vars.lookup name with
  | some v => if v.isReadonly then fail (name ++ ": is read only")
  | none => pure ()

/-- Sets a variable, or marks it, if it may be changed. -/
def setVar (name : String) (value? : Option String) (isExported isReadonly : Bool := false) :
    Sh Unit := do
  if !isName name.toList then fail (name ++ ": bad variable name")
  checkWritable name
  let s ← get
  let old := (s.vars.lookup name).getD ⟨none, false, false⟩
  let v : Variable := {
    value? := value?
    isExported := old.isExported || isExported || s.has "allexport"
    isReadonly := old.isReadonly || isReadonly }
  let s := s.putVar name v
  set (if name = "OPTIND" then
      { s with nextOption := ((value?.getD "1").toNat?).getD 1, optionOffset := 0 }
    else if name = "PATH" then { s with located := [] } else s)

/-- Sets a variable. -/
def assign (name value : String) : Sh Unit :=
  setVar name (some value)

/-- Marks a variable, which keeps the value it has. -/
def markVar (name : String) (isExported isReadonly : Bool) : Sh Unit := do
  if !isName name.toList then fail (name ++ ": bad variable name")
  let s ← get
  let old := (s.vars.lookup name).getD ⟨none, false, false⟩
  set (s.putVar name { old with
    isExported := old.isExported || isExported
    isReadonly := old.isReadonly || isReadonly })

/-- Takes a variable away. -/
def unsetVar (name : String) : Sh Unit := do
  checkWritable name
  modify fun s => { s with
    vars := Shell.dropEntry name s.vars
    located := if name = "PATH" then [] else s.located }

/-- Remembers a variable until the function that runs ends. -/
def saveLocal (name : String) : Sh Unit :=
  modify fun s =>
    match s.locals with
    | frame :: rest =>
      if frame.any (·.1 == name) then s
      else { s with locals := ((name, s.vars.lookup name) :: frame) :: rest }
    | [] => s

/-- Starts remembering variables. -/
def pushLocals : Sh Unit :=
  modify fun s => { s with locals := [] :: s.locals }

/-- The variables with one of them as it was. -/
def restoreVar (vars : List (String × Variable)) (saved : String × Option Variable) :
    List (String × Variable) :=
  match saved.2 with
  | some v => Shell.putEntry saved.1 v vars
  | none => Shell.dropEntry saved.1 vars

/-- Restores remembered variables until there are so many lists of them. -/
def popLocalsTo (depth : Nat) : Sh Unit :=
  modify fun s =>
    let extra := s.locals.take (s.locals.length - depth)
    { s with
      locals := s.locals.drop (s.locals.length - depth)
      vars := extra.foldl (fun vars frame => frame.foldl restoreVar vars) s.vars
      located := if extra.any fun frame => frame.any (·.1 == "PATH") then [] else s.located }

end Sh

end LuaBundler.Shell
