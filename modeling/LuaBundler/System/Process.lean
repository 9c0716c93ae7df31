import LuaBundler.Process.Basic
import LuaBundler.System.Disk
import LuaBundler.System.Request

/-!
# Processes and open files

A process has a task, the time at which the task goes on, numbers for open files, a working
directory, and reactions to signals. An open file is shared by the numbers that stand for it, in one
process or in several: they move one offset. A pipe holds what was written to it until it is read,
up to a limit.

A sink takes what processes write and keeps it for whoever started them, with the times.
-/

namespace LuaBundler.System

open Files Process

/-! ### Open files -/

/-- What an open file reads from or writes to. -/
inductive Channel where
  | node (number : Nat)
  | source (pipe : Nat)
  | target (pipe : Nat)
  | sink (number : Nat)

/-- An open file. -/
structure OpenFile where
  channel : Channel
  offset : Nat := 0
  readable : Bool
  writable : Bool
  append : Bool := false
  /-- How many numbers stand for it. -/
  uses : Nat := 1

/-- A pipe: what it holds from an offset on, and how many open files read it and write it. -/
structure Pipe where
  data : ByteArray
  offset : Nat
  readers : Nat
  writers : Nat
  /-- Whether its readers wait for a first writer. -/
  isExpectant : Bool := false

namespace Pipe

/-- The number of bytes that a pipe holds at most. -/
def capacity : Nat := 65536

/-- A pipe that is open at both ends. -/
def fresh : Pipe := ⟨ByteArray.empty, 0, 1, 1, false⟩

/-- A pipe that nobody has opened yet. -/
def unopened : Pipe := ⟨ByteArray.empty, 0, 0, 0, true⟩

/-- How many bytes a pipe holds. -/
def size (p : Pipe) : Nat :=
  p.data.size - p.offset

/-- How many bytes a pipe has room for. -/
def room (p : Pipe) : Nat :=
  capacity - p.size

/-- Takes bytes out of a pipe. -/
def take (p : Pipe) (count : Nat) : ByteArray × Pipe :=
  let stop := min p.data.size (p.offset + count)
  let bytes := p.data.extract p.offset stop
  (bytes, if stop = p.data.size then { p with data := ByteArray.empty, offset := 0 }
    else { p with offset := stop })

/-- Puts bytes into a pipe. -/
def put (p : Pipe) (bytes : ByteArray) : Pipe :=
  if p.offset = 0 then { p with data := p.data ++ bytes }
  else { p with data := p.data.extract p.offset p.data.size ++ bytes, offset := 0 }

end Pipe

/-- What has been written to a sink, the last piece first, with the times, and when the last file
that wrote to it was closed. -/
structure Sink where
  pieces : List (Nat × ByteArray) := []
  writers : Nat := 1
  closed? : Option Nat := none

namespace Sink

/-- All that was written to a sink. -/
def bytes (s : Sink) : Text.Bytes :=
  s.pieces.reverse.flatMap fun p => p.2.toList

/-- Whether a sink was closed no later than at a time. -/
def isClosedBy (s : Sink) (time : Nat) : Bool :=
  match s.closed? with
  | some closed => closed ≤ time
  | none => false

end Sink

/-! ### Signals -/

/-- The number of a signal that is named without the letters that all names share. -/
def signalNumber? (name : String) : Option Nat :=
  (signalNames.findIdx? (· == name)).map (· + 1)

/-- The signal that nothing can catch or ignore. -/
def sigkill : Nat := 9

/-- The signal of a write that nobody will read. -/
def sigpipe : Nat := 13

/-- The signal that asks a process to end. -/
def sigterm : Nat := 15

/-- The signal that lets a stopped process go on. -/
def sigcont : Nat := 18

/-- The signals that stop a process, the first of which cannot be caught. -/
def stopSignals : List Nat := [19, 20, 21, 22]

/-- The signals that do nothing unless they are caught. -/
def harmlessSignals : List Nat := [17, 18, 23, 28]

/-- Whether a process can choose its reaction to a signal. -/
def isChoosable (signal : Nat) : Bool :=
  signal != sigkill && signal != 19

/-! ### Processes -/

/-- What a number of a process stands for. -/
structure Slot where
  file : Nat
  /-- Whether programs that the process starts go without it. -/
  isPrivate : Bool := false

/-- A process. -/
structure Proc where
  id : Nat
  parent : Nat
  group : Nat
  task : Task
  /-- When its task goes on. -/
  ready : Nat
  /-- Whether it waits for something to happen, and whether it goes on at its time all the same. -/
  isBlocked : Bool := false
  hasAlarm : Bool := false
  isStopped : Bool := false
  /-- How it ended, until the process above it has asked. -/
  ended? : Option ExitStatus := none
  slots : List (Nat × Slot)
  cwd : Nat
  mask : Nat := 0o022
  reactions : List (Nat × Reaction) := []
  /-- The caught signals that have arrived, and the signals kept while it is stopped. -/
  arrivals : List Nat := []
  held : List Nat := []

namespace Proc

/-- How a process reacts to a signal. -/
def reaction (p : Proc) (signal : Nat) : Reaction :=
  (p.reactions.lookup signal).getD .usual

/-- The process with a reaction to a signal. -/
def react (p : Proc) (signal : Nat) (r : Reaction) : Proc :=
  { p with reactions := (signal, r) :: p.reactions.filter (·.1 != signal) }

/-- What a number stands for. -/
def slot? (p : Proc) (number : Nat) : Option Slot :=
  p.slots.lookup number

/-- The process without a number. -/
def dropSlot (p : Proc) (number : Nat) : Proc :=
  { p with slots := p.slots.filter (·.1 != number) }

/-- The process with a number that stands for something. -/
def setSlot (p : Proc) (number : Nat) (s : Slot) : Proc :=
  { p with slots := (number, s) :: p.slots.filter (·.1 != number) }

/-- The least number from a bound on that a list does not have: among one more numbers than the
list has, one is free. -/
def leastFree (used : List Nat) (least : Nat) : Nat :=
  let isTaken := used.foldl
    (fun a n => if least ≤ n then a.setIfInBounds (n - least) true else a)
    (Array.replicate (used.length + 1) false)
  least + (isTaken.findIdx? (! ·)).getD 0

/-- The least number from a bound on that stands for nothing. -/
def freeNumber (p : Proc) (least : Nat) : Nat :=
  leastFree (p.slots.map (·.1)) least

end Proc

end LuaBundler.System
