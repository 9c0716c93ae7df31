import LuaBundler.System.Loader
import LuaBundler.System.Process

/-!
# Systems

A system is a disk with the processes that use it. Time passes for each process by itself; what a
process asks for happens at its own time, and the process whose time is the least comes first
(`System/Service`).

This module holds the state of a system and what several requests have in common: opening and
closing, signals, and the end of a process.
-/

namespace LuaBundler.System

open Files Process

/-- A disk, the files that are open, and the processes. -/
structure Kernel where
  disk : Disk
  files : Array OpenFile := #[]
  pipes : Array Pipe := #[]
  sinks : Array Sink := #[]
  procs : List Proc := []
  nextId : Nat
  /-- The process that a utility is, given its arguments and variables. -/
  utility : String → List String → List String → Task

namespace Kernel

/-! ### Processes -/

/-- The process of a number. -/
def proc? (k : Kernel) (id : Nat) : Option Proc :=
  k.procs.find? (·.id == id)

/-- The system with a process changed. -/
def update (k : Kernel) (p : Proc) : Kernel :=
  { k with procs := k.procs.map fun q => if q.id = p.id then p else q }

/-- Goes on with a process after some time. -/
def resume (k : Kernel) (p : Proc) (task : Task) (cost : Nat) : Kernel :=
  k.update { p with task, ready := p.ready + cost, isBlocked := false, hasAlarm := false }

/-- Lets a process wait for something to happen. -/
def block (k : Kernel) (p : Proc) : Kernel :=
  k.update { p with isBlocked := true }

/-- Something has happened: whoever waits looks again. -/
def wake (k : Kernel) (time : Nat) : Kernel :=
  { k with procs := k.procs.map fun p =>
      if p.isBlocked then
        { p with
          isBlocked := false
          hasAlarm := false
          ready := if p.hasAlarm then time else max p.ready time }
      else p }

/-! ### Open files -/

/-- The file of a number of a process. -/
def fileAt? (k : Kernel) (p : Proc) (number : Nat) : Option (Nat × OpenFile) := do
  let slot ← p.slot? number
  return (slot.file, ← k.files[slot.file]?)

/-- The system with an open file changed. -/
def modifyFile (k : Kernel) (file : Nat) (f : OpenFile → OpenFile) : Kernel :=
  { k with files := k.files.modify file f }

/-- The system with a pipe changed. -/
def modifyPipe (k : Kernel) (pipe : Nat) (f : Pipe → Pipe) : Kernel :=
  { k with pipes := k.pipes.modify pipe f }

/-- The system with a sink changed. -/
def modifySink (k : Kernel) (sink : Nat) (f : Sink → Sink) : Kernel :=
  { k with sinks := k.sinks.modify sink f }

/-- One more number stands for an open file. -/
def share (k : Kernel) (file : Nat) : Kernel :=
  k.modifyFile file fun f => { f with uses := f.uses + 1 }

/-- What it means for a channel that the last number for it is gone. -/
def closeChannel (k : Kernel) (time : Nat) : Channel → Kernel
  | .node _ => k
  | .source pipe => (k.modifyPipe pipe fun p => { p with readers := p.readers - 1 }).wake time
  | .target pipe => (k.modifyPipe pipe fun p => { p with writers := p.writers - 1 }).wake time
  | .sink sink => k.modifySink sink fun s =>
      { s with writers := s.writers - 1, closed? := if s.writers = 1 then some time else none }

/-- One number less stands for an open file. -/
def release (k : Kernel) (time file : Nat) : Kernel :=
  match k.files[file]? with
  | none => k
  | some f =>
    let k := k.modifyFile file fun f => { f with uses := f.uses - 1 }
    if f.uses = 1 then k.closeChannel time f.channel else k

/-- The system with a file opened, and its number. -/
def addFile (k : Kernel) (f : OpenFile) : Kernel × Nat :=
  match k.files.findIdx? (·.uses == 0) with
  | some i => ({ k with files := k.files.set! i f }, i)
  | none => ({ k with files := k.files.push f }, k.files.size)

/-- Counts one more user of a channel. -/
def openChannel (k : Kernel) : Channel → Kernel
  | .node _ => k
  | .source pipe => k.modifyPipe pipe fun p => { p with readers := p.readers + 1 }
  | .target pipe =>
    k.modifyPipe pipe fun p => { p with writers := p.writers + 1, isExpectant := false }
  | .sink sink => k.modifySink sink fun s => { s with writers := s.writers + 1, closed? := none }

/-- Takes a number away from a process. -/
def closeNumber (k : Kernel) (p : Proc) (number : Nat) : Kernel × Proc :=
  match p.slot? number with
  | some slot => (k.release p.ready slot.file, p.dropSlot number)
  | none => (k, p)

/-- Takes all numbers of some kind away from a process. -/
def closeAll (k : Kernel) (p : Proc) (which : Nat × Slot → Bool) : Kernel × Proc :=
  (p.slots.filter which).foldl (fun (k, p) s => k.closeNumber p s.1) (k, p)

/-! ### The end of a process -/

/-- The number of the process that the processes without another one above them are below. -/
def initId : Nat := 1

/-- Whether someone will ask how the process below a process ended. -/
def isAwaited (k : Kernel) (parent : Nat) : Bool :=
  parent = 0 || match k.proc? parent with
    | some p => p.ended?.isNone
    | none => false

/-- The end of a process: its files are closed, and its children are given away. -/
def finish (k : Kernel) (p : Proc) (status : ExitStatus) (time : Nat) : Kernel :=
  let (k, p) := k.closeAll { p with ready := time } fun _ => true
  let k := k.update
    { p with ended? := some status, ready := time, isBlocked := false, hasAlarm := false }
  let procs := k.procs.map fun q => if q.parent = p.id then { q with parent := initId } else q
  let k := { k with procs := procs.filter fun q => q.ended?.isNone || q.parent != initId }
  let k := if k.isAwaited p.parent then k
    else { k with procs := k.procs.filter (·.id != p.id) }
  k.wake time

/-! ### Signals -/

/-- The answer to a request that a signal breaks off, if it can be broken off. -/
def interruption? : (r : Request) → Option r.Answer
  | .read .. => some (.error .interrupted)
  | .write .. => some (.error .interrupted)
  | .open .. => some (.error .interrupted)
  | .wait .. => some (.error .interrupted)
  | .waitUntil .. => some (.error .interrupted)
  | _ => none

/-- The task of a process after a signal has broken off what it waits for. -/
def interrupted? : Task → Option Task
  | .call r next => (interruption? r).map next
  | _ => none

/-- A caught signal arrives. -/
def catchSignal (p : Proc) (signal time : Nat) : Proc :=
  let p := if p.arrivals.contains signal then p
    else { p with arrivals := p.arrivals ++ [signal] }
  if p.isBlocked then
    match interrupted? p.task with
    | some task => { p with task, isBlocked := false, hasAlarm := false, ready := max p.ready time }
    | none => p
  else p

/-- A signal arrives at a process that is not stopped. -/
def meetSignal (k : Kernel) (p : Proc) (signal time : Nat) : Kernel :=
  if signal = sigkill then k.finish p (.signal signal) time
  else if signal = 19 then k.update { p with isStopped := true }
  else match p.reaction signal with
    | .ignore => k
    | .catch => k.update (catchSignal p signal time)
    | .usual =>
      if harmlessSignals.contains signal then k
      else if stopSignals.contains signal then k.update { p with isStopped := true }
      else k.finish p (.signal signal) time

/-- A signal arrives at a process. -/
def deliver (k : Kernel) (signal time id : Nat) : Kernel :=
  match k.proc? id with
  | none => k
  | some p =>
    if p.ended?.isSome then k
    else if p.isStopped then
      if signal = sigkill then k.finish p (.signal signal) time
      else if signal = sigcont then
        let k := k.update { p with isStopped := false, held := [], ready := max p.ready time }
        (sigcont :: p.held).foldl (fun k s =>
          match k.proc? id with
          | some p => if p.ended?.isSome then k else k.meetSignal p s time
          | none => k) k
      else k.update { p with held := p.held ++ [signal] }
    else k.meetSignal p signal time

/-- The processes that a target of a signal means to a process. -/
def targets (k : Kernel) (p : Proc) (target : Int) : List Nat :=
  let group := if target = 0 then p.group else target.natAbs
  let meant (q : Proc) : Bool :=
    if 0 < target then q.id = target.toNat
    else if target = -1 then q.id != p.id && q.ended?.isNone
    else q.group = group
  (k.procs.filter meant).map (·.id)

end Kernel

end LuaBundler.System
