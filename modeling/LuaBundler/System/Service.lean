import LuaBundler.System.Change
import LuaBundler.System.Kernel

/-!
# Answering requests

What a system does when a process asks for something: it answers and lets the process go on after
the time that the answer takes, lets it wait, or ends it.
-/

namespace LuaBundler.System.Kernel

open Files Process

/-! ### How long things take, in microseconds -/

/-- A request of any kind. -/
def requestTime : Nat := 1

/-- Splitting a process in two, for itself and for its child. -/
def forkTime : Nat := 100

/-- The time until a new child does something. -/
def childTime : Nat := 300

/-- Starting a program. -/
def launchTime : Nat := 600

/-! ### Reading and writing -/

/-- The number of bytes that are written to a pipe all at once or not at all. -/
def pipeUnit : Nat := 4096

/-- Zeros. -/
def zeros (count : Nat) : ByteArray :=
  ⟨Array.replicate count 0⟩

/-- Reads from a node at an offset. -/
def readNode (content : Content) (offset count : Nat) : Except FileError ByteArray :=
  match content with
  | .dir .. => .error .isDirectory
  | .file bytes => .ok (bytes.extract offset (min bytes.size (offset + count)))
  | .device .null => .ok ByteArray.empty
  | .device _ => .ok (zeros count)
  | _ => .ok ByteArray.empty

/-- A file with bytes written at an offset. -/
def patched (bytes : ByteArray) (offset : Nat) (new : ByteArray) : ByteArray :=
  if offset = bytes.size then bytes ++ new
  else
    let before := Disk.resized bytes offset
    before ++ new ++ bytes.extract (offset + new.size) bytes.size

/-- Answers a process that reads. -/
def serveRead (k : Kernel) (p : Proc) (number count : Nat)
    (next : Except FileError ByteArray → Task) : Kernel :=
  let answer (k : Kernel) (a : Except FileError ByteArray) := k.resume p (next a) requestTime
  match k.fileAt? p number with
  | none => answer k (.error .badDescriptor)
  | some (i, f) =>
    if !f.readable then answer k (.error .badDescriptor)
    else match f.channel with
      | .node n =>
        match readNode (k.disk.content n) f.offset count with
        | .error e => answer k (.error e)
        | .ok bytes =>
          answer (k.modifyFile i fun f => { f with offset := f.offset + bytes.size }) (.ok bytes)
      | .source pipe =>
        let held := k.pipes.getD pipe .fresh
        if 0 < held.size then
          let (bytes, _) := held.take count
          (answer (k.modifyPipe pipe fun q => (q.take count).2) (.ok bytes)).wake p.ready
        else if held.writers = 0 ∧ !held.isExpectant then answer k (.ok ByteArray.empty)
        else k.block p
      | .target _ | .sink _ => answer k (.error .badDescriptor)

/-- Answers a process that writes to a pipe that nobody reads. -/
def serveBroken (k : Kernel) (p : Proc) (next : Except FileError Nat → Task) : Kernel :=
  match p.reaction sigpipe with
  | .usual => k.finish p (.signal sigpipe) p.ready
  | .ignore => k.resume p (next (.error .brokenPipe)) requestTime
  | .catch =>
    let p := catchSignal p sigpipe p.ready
    k.resume p (next (.error .brokenPipe)) requestTime

/-- Answers a process that writes to a pipe. What does not fit waits, and short pieces are not
split. -/
def servePipe (k : Kernel) (p : Proc) (number pipe : Nat) (bytes : ByteArray)
    (next : Except FileError Nat → Task) : Kernel :=
  let held := k.pipes.getD pipe .fresh
  if held.readers = 0 then k.serveBroken p next
  else if bytes.size ≤ held.room then
    ((k.modifyPipe pipe fun q => q.put bytes).resume p (next (.ok bytes.size)) requestTime).wake
      p.ready
  else if held.room = 0 ∨ bytes.size ≤ pipeUnit then k.block p
  else
    let now := bytes.extract 0 held.room
    let later := bytes.extract held.room bytes.size
    let rest : Task := .call (.write number later) fun a => next (a.map (· + now.size))
    ((k.modifyPipe pipe fun q => q.put now).wake p.ready).update { p with task := rest }

/-- Answers a process that writes. -/
def serveWrite (k : Kernel) (p : Proc) (number : Nat) (bytes : ByteArray)
    (next : Except FileError Nat → Task) : Kernel :=
  let answer (k : Kernel) (a : Except FileError Nat) := k.resume p (next a) requestTime
  match k.fileAt? p number with
  | none => answer k (.error .badDescriptor)
  | some (i, f) =>
    if !f.writable then answer k (.error .badDescriptor)
    else if bytes.size = 0 then answer k (.ok 0)
    else match f.channel with
      | .node n =>
        match k.disk.content n with
        | .file old =>
          let offset := if f.append then old.size else f.offset
          let disk := k.disk.setContent n (.file (patched old offset bytes)) p.ready
          let k := { k with disk }
          answer (k.modifyFile i fun f => { f with offset := offset + bytes.size })
            (.ok bytes.size)
        | .device .full => answer k (.error .noSpace)
        | _ => answer k (.ok bytes.size)
      | .target pipe => k.servePipe p number pipe bytes next
      | .sink sink =>
        answer (k.modifySink sink fun s => { s with pieces := (p.ready, bytes) :: s.pieces })
          (.ok bytes.size)
      | .source _ => answer k (.error .badDescriptor)

/-- Answers a process that moves an offset. -/
def serveSeek (k : Kernel) (p : Proc) (number : Nat) (offset : Int) (whence : Whence) :
    Kernel × Except FileError Nat :=
  match k.fileAt? p number with
  | none => (k, .error .badDescriptor)
  | some (i, f) =>
    match f.channel with
    | .node n =>
      let base : Nat := match whence, k.disk.content n with
        | .start, _ => 0
        | .here, _ => f.offset
        | .end, .file bytes => bytes.size
        | .end, _ => 0
      let target := (base : Int) + offset
      if target < 0 then (k, .error .invalidArgument)
      else (k.modifyFile i fun f => { f with offset := target.toNat }, .ok target.toNat)
    | _ => (k, .error .illegalSeek)

/-! ### Opening -/

/-- The pipe of a node that is a pipe with a name. -/
def queuePipe (k : Kernel) (n : Nat) (pipe : Option Nat) : Kernel × Nat :=
  match pipe with
  | some q => (k, q)
  | none =>
    let q := k.pipes.size
    ({ k with
      pipes := k.pipes.push .unopened
      disk := k.disk.modify n fun i => { i with content := .queue (some q) } }, q)

/-- What opening a file leads to. -/
inductive Opened where
  | failed (e : FileError)
  | done (channel : Channel)
  /-- It takes someone at the other end. -/
  | waiting

/-- Opens a node that is there. -/
def openNode (k : Kernel) (p : Proc) (n : Nat) (slashed : Bool) (how : Opening) :
    Kernel × Opened :=
  match k.disk.content n with
  | .dir .. => (k, if how.write then .failed .isDirectory else .done (.node n))
  | .file _ =>
    if slashed then (k, .failed .notDirectory)
    else
      let k := if how.truncate ∧ how.write then
        { k with disk := k.disk.setContent n (.file ByteArray.empty) p.ready } else k
      (k, .done (.node n))
  | .device _ => (k, if slashed then .failed .notDirectory else .done (.node n))
  | .terminal => (k, .failed .noDevice)
  | .link _ => (k, .failed .tooManyLinks)
  | .queue pipe =>
    let (k, q) := k.queuePipe n pipe
    if how.read then (k, .done (.source q))
    else if (k.pipes.getD q .fresh).readers = 0 then (k, .waiting)
    else (k, .done (.target q))
  | .descriptor number =>
    match k.fileAt? p number with
    | none => (k, .failed .notFound)
    | some (_, f) =>
      match f.channel with
      | .node m =>
        match k.disk.content m with
        | .file _ =>
          let k := if how.truncate ∧ how.write then
            { k with disk := k.disk.setContent m (.file ByteArray.empty) p.ready } else k
          (k, .done (.node m))
        | _ => (k, .done (.node m))
      | .source q | .target q => (k, .done (if how.write then .target q else .source q))
      | .sink s => (k, .done (.sink s))

/-- Finds or makes what a path leads to, and opens it. -/
def openPath (k : Kernel) (p : Proc) (path : String) (how : Opening) : Kernel × Opened :=
  match k.disk.spot p.cwd (!(how.create && how.fresh)) path with
  | .error e => (k, .failed e)
  | .ok s =>
    match s.node? with
    | some n =>
      if how.create ∧ how.fresh then (k, .failed .exists)
      else if how.create ∧ s.slashed ∧ !k.disk.isDir n then (k, .failed .notDirectory)
      else if how.create ∧ s.slashed then (k, .failed .isDirectory)
      else k.openNode p n s.slashed how
    | none =>
      if !how.create then (k, .failed .notFound)
      else if s.slashed then (k, .failed .isDirectory)
      else
        let mode := how.mode &&& (0o7777 ^^^ p.mask)
        let (disk, n) := k.disk.create s.dir s.name (.file ByteArray.empty) mode p.ready
        ({ k with disk }, .done (.node n))

/-- Answers a process that opens a file. -/
def serveOpen (k : Kernel) (p : Proc) (path : String) (how : Opening)
    (next : Except FileError Nat → Task) : Kernel :=
  match k.openPath p path how with
  | (k, .failed e) => k.resume p (next (.error e)) requestTime
  | (k, .waiting) => k.block p
  | (k, .done channel) =>
    let (k, i) := (k.openChannel channel).addFile
      { channel, readable := how.read, writable := how.write, append := how.append }
    let number := p.freeNumber 0
    (k.resume (p.setSlot number ⟨i, false⟩) (next (.ok number)) requestTime).wake p.ready

/-- Opens a pipe. -/
def servePair (k : Kernel) (p : Proc) : Kernel × Proc × (Nat × Nat) :=
  let q := k.pipes.size
  let k := { k with pipes := k.pipes.push .fresh }
  let (k, i) := k.addFile { channel := .source q, readable := true, writable := false }
  let source := p.freeNumber 0
  let p := p.setSlot source ⟨i, false⟩
  let (k, j) := k.addFile { channel := .target q, readable := false, writable := true }
  let target := p.freeNumber 0
  (k, p.setSlot target ⟨j, false⟩, (source, target))

/-- The number of files that a process may have open. -/
def maxNumber : Nat := 1024

/-- Lets a number stand for what another one stands for. -/
def serveReplace (k : Kernel) (p : Proc) (source target : Nat) :
    Kernel × Proc × Except FileError Unit :=
  match p.slot? source with
  | none => (k, p, .error .badDescriptor)
  | some slot =>
    if maxNumber ≤ target then (k, p, .error .badDescriptor)
    else if source = target then (k, p, .ok ())
    else
      let (k, p) := (k.share slot.file).closeNumber p target
      (k, p.setSlot target ⟨slot.file, false⟩, .ok ())

/-! ### Facts -/

/-- What is known of a node. -/
def factsOf (d : Disk) (n : Nat) : Facts :=
  let i := d.get n
  let kind := match i.content with
    | .dir .. => .dir
    | .file _ => .file
    | .link _ => .link
    | .device _ | .descriptor _ | .terminal => .device
    | .queue _ => .pipe
  let size := match i.content with
    | .dir .. => 4096
    | .file bytes => bytes.size
    | .link target => target.length
    | _ => 0
  ⟨kind, n, i.mode, i.links, size, i.modified⟩

/-- What is known of an open file. -/
def factsOfFile (k : Kernel) (f : OpenFile) : Facts :=
  match f.channel with
  | .node n => factsOf k.disk n
  | .source q | .target q => ⟨.pipe, 1000000 + q, 0o600, 1, 0, 0⟩
  | .sink s => ⟨.pipe, 2000000 + s, 0o600, 1, 0, 0⟩

/-- What is known of the file that a path leads to. -/
def factsAt (k : Kernel) (p : Proc) (path : String) (follow : Bool) : Except FileError Facts := do
  let n ← k.disk.locate p.cwd follow path
  match k.disk.content n, follow with
  | .descriptor number, true =>
    match k.fileAt? p number with
    | some (_, f) => return k.factsOfFile f
    | none => .error .notFound
  | .descriptor _, false => return { factsOf k.disk n with kind := .link }
  | _, _ => return factsOf k.disk n

/-- The names in the directory that a path leads to. -/
def namesAt (k : Kernel) (p : Proc) (path : String) : Except FileError (List String) := do
  let n ← k.disk.locate p.cwd true path
  if k.disk.isDir n then return (k.disk.entries n).map (·.1) else .error .notDirectory

/-- The target of the link that a path leads to. -/
def linkAt (k : Kernel) (p : Proc) (path : String) : Except FileError String := do
  let n ← k.disk.locate p.cwd false path
  match k.disk.content n with
  | .link target => return target
  | _ => .error .invalidArgument

/-! ### Processes -/

/-- The bytes of a program that tell what kind of program it is. -/
def headSize : Nat := 256

/-- How the file of a program starts, if it may be run. -/
def programHead (k : Kernel) (p : Proc) (path : String) : Except FileError Text.Bytes := do
  let n ← k.disk.locate p.cwd true path
  match k.disk.content n with
  | .file bytes =>
    if (k.disk.get n).mode &&& 0o111 = 0 then .error .permissionDenied
    else return (bytes.extract 0 (min bytes.size headSize)).toList
  | _ => .error .permissionDenied

/-- Turns a process into another program. -/
def becomeProgram (k : Kernel) (p : Proc) (found : Image) (env : List String) : Kernel :=
  let (k, p) := k.closeAll p fun s => s.2.isPrivate
  let reactions := p.reactions.filter fun r => r.2 = .ignore
  k.resume { p with reactions, arrivals := [] } (k.utility found.utility found.args env) launchTime

/-- Splits a process in two. -/
def serveFork (k : Kernel) (p : Proc) (child : Task) (next : Nat → Task) : Kernel :=
  let id := k.nextId
  let k := p.slots.foldl (fun k s => k.share s.2.file) { k with nextId := id + 1 }
  let born := { p with
    id, parent := p.id, task := child, ready := p.ready + childTime, arrivals := [], held := [] }
  let k := { k with procs := k.procs ++ [born] }
  k.resume p (next id) forkTime

/-- The signal that a process died of, if it did, and its status. -/
def endedOf (id : Nat) : ExitStatus → Ended
  | .code n => ⟨id, n, none⟩
  | .signal n => ⟨id, 0, some n⟩

/-- A child of a process that has ended; `none` if there is a child but none that has ended. -/
def endedChild (k : Kernel) (p : Proc) (which : Option Nat) : Except FileError (Option Ended) :=
  let children := k.procs.filter fun q =>
    q.parent = p.id && (match which with | some id => q.id = id | none => true)
  let ended := children.filter fun q => q.ended?.isSome
  let first := ended.foldl (fun (best : Option Proc) q => match best with
    | some b => if q.ready < b.ready then some q else some b
    | none => some q) none
  match children, first with
  | [], _ => .error .noChild
  | _, some q => .ok (q.ended?.map (endedOf q.id))
  | _, none => .ok none

/-- The system without a process that has been asked about. -/
def bury (k : Kernel) (e : Ended) : Kernel :=
  { k with procs := k.procs.filter (·.id != e.process) }

/-- Answers a process that waits for a child. -/
def serveWait (k : Kernel) (p : Proc) (which : Option Nat) (patient : Bool)
    (next : Except FileError (Option Ended) → Task) : Kernel :=
  match k.endedChild p which with
  | .error e => k.resume p (next (.error e)) requestTime
  | .ok (some e) => (k.bury e).resume p (next (.ok (some e))) requestTime
  | .ok none =>
    if patient then
      match p.arrivals with
      | [] => k.block p
      | _ => k.resume p (next (.error .interrupted)) requestTime
    else k.resume p (next (.ok none)) requestTime

/-- Answers a process that waits for a child until a time. -/
def serveWaitUntil (k : Kernel) (p : Proc) (process time : Nat)
    (next : Except FileError (Option Ended) → Task) : Kernel :=
  match k.endedChild p (some process) with
  | .error e => k.resume p (next (.error e)) requestTime
  | .ok (some e) => (k.bury e).resume p (next (.ok (some e))) requestTime
  | .ok none =>
    if time ≤ p.ready then k.resume p (next (.ok none)) requestTime
    else k.update { p with isBlocked := true, hasAlarm := true, ready := time }

/-- The highest number of a signal. -/
def maxSignal : Nat := 64

/-- Answers a process that sends a signal. -/
def serveSend (k : Kernel) (p : Proc) (target : Int) (signal : Nat)
    (next : Except FileError Unit → Task) : Kernel :=
  let goals := k.targets p target
  let answer (k : Kernel) (a : Except FileError Unit) : Kernel :=
    match k.proc? p.id with
    | some p => if p.ended?.isSome then k else k.resume p (next a) requestTime
    | none => k
  if maxSignal < signal then answer k (.error .invalidArgument)
  else if goals = [] then answer k (.error .noProcess)
  else if signal = 0 then answer k (.ok ())
  else answer (goals.foldl (fun k id => k.deliver signal p.ready id) k) (.ok ())

/-- Answers a request of a process. -/
def serve (k : Kernel) (p : Proc) : (r : Request) → (r.Answer → Task) → Kernel
  | .work time, next => k.resume p (next ()) time
  | .sleep time, next => k.resume p (next ()) time
  | .now, next => k.resume p (next p.ready) requestTime
  | .identity, next => k.resume p (next (p.id, p.parent)) requestTime
  | .arrivals, next => k.resume { p with arrivals := [] } (next p.arrivals) 0
  | .read number count, next => k.serveRead p number count next
  | .write number bytes, next => k.serveWrite p number bytes next
  | .open path how, next => k.serveOpen p path how next
  | .close number, next =>
    match p.slot? number with
    | none => k.resume p (next (.error .badDescriptor)) requestTime
    | some _ =>
      let (k, p) := k.closeNumber p number
      k.resume p (next (.ok ())) requestTime
  | .duplicate number least, next =>
    match p.slot? number with
    | none => k.resume p (next (.error .badDescriptor)) requestTime
    | some slot =>
      let new := p.freeNumber least
      (k.share slot.file).resume (p.setSlot new ⟨slot.file, true⟩) (next (.ok new)) requestTime
  | .replace source target, next =>
    let (k, p, a) := k.serveReplace p source target
    k.resume p (next a) requestTime
  | .seek number offset whence, next =>
    let (k, a) := k.serveSeek p number offset whence
    k.resume p (next a) requestTime
  | .pipe, next =>
    let (k, p, a) := k.servePair p
    k.resume p (next a) requestTime
  | .facts path follow, next => k.resume p (next (k.factsAt p path follow)) requestTime
  | .openFacts number, next =>
    let a := match k.fileAt? p number with
      | some (_, f) => .ok (k.factsOfFile f)
      | none => .error .badDescriptor
    k.resume p (next a) requestTime
  | .names path, next => k.resume p (next (k.namesAt p path)) requestTime
  | .readLink path, next => k.resume p (next (k.linkAt p path)) requestTime
  | .change c, next =>
    match k.disk.apply p.cwd p.mask p.ready c with
    | .ok disk => { k with disk }.resume p (next (.ok ())) requestTime
    | .error e => k.resume p (next (.error e)) requestTime
  | .enterDir path, next =>
    match k.disk.locate p.cwd true path with
    | .error e => k.resume p (next (.error e)) requestTime
    | .ok n =>
      if k.disk.isDir n then k.resume { p with cwd := n } (next (.ok ())) requestTime
      else k.resume p (next (.error .notDirectory)) requestTime
  | .currentDir, next =>
    let a := match k.disk.path? p.cwd with
      | some path => .ok path
      | none => .error .notFound
    k.resume p (next a) requestTime
  | .mask mode, next =>
    k.resume { p with mask := mode.getD p.mask &&& 0o777 } (next p.mask) requestTime
  | .launch path args env, next =>
    match image (k.programHead p) path args env with
    | .error e => k.resume p (next (.error e)) requestTime
    | .ok found => k.becomeProgram p found env
  | .wait process patient, next => k.serveWait p process patient next
  | .waitUntil process time, next => k.serveWaitUntil p process time next
  | .send target signal, next => k.serveSend p target signal next
  | .react signal reaction, next =>
    k.resume (if isChoosable signal then p.react signal reaction else p) (next ()) 0
  | .ignores signal, next => k.resume p (next (decide (p.reaction signal = .ignore))) 0
  | .lead, next => k.resume { p with group := p.id } (next ()) requestTime

/-! ### The course of a system

A system goes on step by step: of the processes that neither wait nor are stopped, the one whose
time is the least comes first, and of several the oldest. `advance` lets a system go on until
something is the case, or a time has come. -/

/-- Whether a process can go on by itself. -/
def canRun (p : Proc) : Bool :=
  p.ended?.isNone && !p.isStopped && (!p.isBlocked || p.hasAlarm)

/-- The process that comes next. -/
def next? (k : Kernel) : Option Proc :=
  k.procs.foldl (fun best p =>
    if canRun p then
      match best with
      | some b => if p.ready < b.ready then some p else some b
      | none => some p
    else best) none

/-- One step of a process. -/
def step (k : Kernel) (p : Proc) : Kernel :=
  let p := { p with isBlocked := false, hasAlarm := false }
  match p.task with
  | .exit status => k.finish p (.code (status % 256)) p.ready
  | .fork child next => k.serveFork p child next
  | .call r next => k.serve p r next

/-- Lets a system go on until something is the case, or a time has come. -/
def advanceWithin (stop : Kernel → Bool) (time : Nat) : Nat → Kernel → Kernel
  | 0, k => k
  | steps + 1, k =>
    if stop k then k
    else match k.next? with
      | some p => if p.ready < time then advanceWithin stop time steps (k.step p) else k
      | none => k

/-- The number of steps that a system may take. -/
def maxSteps : Nat := 1000000000000000

/-- Lets a system go on until something is the case, or a time has come. -/
def advance (k : Kernel) (stop : Kernel → Bool) (time : Nat) : Kernel :=
  advanceWithin stop time maxSteps k

end LuaBundler.System.Kernel
