import LuaBundler.Files.Error
import LuaBundler.System.Octets

/-!
# What processes ask for

A process is a tree of requests (`Task`): it ends with a status, splits in two, or asks the system
for something and goes on with the answer. Each request has answers of a type of its own, so a
process never meets an answer to something else.

Programs are written as actions (`Action`), which are requests in sequence with a result. An action
is given what comes after it, so a sequence of actions costs no more than its parts.
-/

namespace LuaBundler.System

open Files

/-! ### Requests -/

/-- How a file is opened. -/
structure Opening where
  read : Bool := false
  write : Bool := false
  append : Bool := false
  /-- Whether a missing file is made. -/
  create : Bool := false
  /-- Whether the file must be missing. -/
  fresh : Bool := false
  /-- Whether what the file holds is dropped. -/
  truncate : Bool := false
  mode : Nat := 0o666

/-- What kind of file something is. -/
inductive Kind where
  | file
  | dir
  | link
  | device
  | pipe
  deriving DecidableEq

/-- What is known of a file without reading it. -/
structure Facts where
  kind : Kind
  number : Nat
  mode : Nat
  links : Nat
  size : Nat
  /-- When it was last changed, in microseconds from the start of the system on. -/
  modified : Int

/-- Where an offset counts from. -/
inductive Whence where
  | start
  | here
  | end

/-- What a process does about a signal. -/
inductive Reaction where
  | usual
  | ignore
  | catch
  deriving DecidableEq

/-- A change of the names and nodes of a disk. -/
inductive DiskChange where
  | makeDir (path : String) (mode : Nat)
  | removeDir (path : String)
  | removeFile (path : String)
  | rename (source target : String)
  | link (source target : String) (follow : Bool)
  | symlink (target path : String)
  | setMode (path : String) (mode : Nat)
  | truncate (path : String) (size : Nat)
  | setTime (path : String) (follow : Bool) (time : Int)
  | makeQueue (path : String) (mode : Nat)

/-- How a child ended, with its number. -/
structure Ended where
  process : Nat
  code : Nat
  /-- The signal that ended it, if one did. -/
  signal? : Option Nat

/-- What a process asks of the system. -/
inductive Request where
  /-- To have worked for a time, in microseconds. -/
  | work (time : Nat)
  | sleep (time : Nat)
  /-- The time since the system started, in microseconds. -/
  | now
  /-- The numbers of the process and of the one above it. -/
  | identity
  /-- The caught signals that have arrived since the last such request. -/
  | arrivals
  | read (number count : Nat)
  | write (number : Nat) (bytes : ByteArray)
  | open (path : String) (how : Opening)
  | close (number : Nat)
  /-- A second number for an open file, no smaller than a bound, that programs do not inherit. -/
  | duplicate (number least : Nat)
  /-- Lets a number stand for what another one stands for. -/
  | replace (source target : Nat)
  | seek (number : Nat) (offset : Int) (whence : Whence)
  | pipe
  | facts (path : String) (follow : Bool)
  | openFacts (number : Nat)
  | names (path : String)
  | readLink (path : String)
  | change (c : DiskChange)
  | enterDir (path : String)
  | currentDir
  | mask (mode : Option Nat)
  | launch (path : String) (args env : List String)
  /-- A child that has ended; one in particular, or any. Unless it may wait, there may be none. -/
  | wait (process : Option Nat) (patient : Bool)
  /-- As `wait`, until a time. -/
  | waitUntil (process time : Nat)
  | send (target : Int) (signal : Nat)
  | react (signal : Nat) (reaction : Reaction)
  /-- Whether a signal is ignored. -/
  | ignores (signal : Nat)
  /-- To lead a group of processes of its own. -/
  | lead

/-- What a request is answered with. -/
def Request.Answer : Request → Type
  | .work _ | .sleep _ | .react .. | .lead => Unit
  | .now => Nat
  | .identity => Nat × Nat
  | .arrivals => List Nat
  | .read .. => Except FileError ByteArray
  | .write .. | .open .. | .duplicate .. | .seek .. => Except FileError Nat
  | .close _ | .replace .. | .change _ | .enterDir _ | .launch .. | .send .. =>
    Except FileError Unit
  | .pipe => Nat × Nat
  | .facts .. | .openFacts _ => Except FileError Facts
  | .names _ => Except FileError (List String)
  | .readLink _ | .currentDir => Except FileError String
  | .mask _ => Nat
  | .wait .. | .waitUntil .. => Except FileError (Option Ended)
  | .ignores _ => Bool

/-! ### Processes -/

/-- What a process does. -/
inductive Task where
  | exit (status : Nat)
  | call (r : Request) (next : r.Answer → Task)
  /-- Splits off a child, and goes on with its number. -/
  | fork (child : Task) (next : Nat → Task)

/-- A piece of a process that has a result. -/
def Action (α : Type) : Type :=
  (α → Task) → Task

namespace Action

/-- An action that asks for nothing. -/
def pure {α : Type} (a : α) : Action α := fun next => next a

/-- One action after another. -/
def bind {α β : Type} (a : Action α) (f : α → Action β) : Action β :=
  fun next => a fun x => f x next

instance : Monad Action where
  pure := pure
  bind := bind

/-- Asks the system. -/
def ask (r : Request) : Action r.Answer := fun next => .call r next

/-- Ends the process. -/
def exit {α : Type} (status : Nat) : Action α := fun _ => .exit status

/-- Splits off a child that does an action, which ends with a status. -/
def fork (child : Action Nat) : Action Nat :=
  fun next => .fork (child Task.exit) next

/-- The process of an action that ends with a status. -/
def task (a : Action Nat) : Task := a Task.exit

instance : LawfulMonad Action := .mk' Action
  (fun _ => rfl) (fun _ _ => rfl) (fun _ _ _ => rfl)

end Action

end LuaBundler.System
