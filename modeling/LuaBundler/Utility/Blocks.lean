import LuaBundler.Text.Split
import LuaBundler.Utility.Streams

/-!
# Utilities: copying blocks

Copying a file in blocks of given sizes, from a place on and to a place, with the bytes changed on
the way; and counting the blocks.
-/

namespace LuaBundler.Utility

open LuaBundler.Files LuaBundler.System LuaBundler.Text

/-- What is to be copied, and how. -/
structure BlockCopy where
  input? : Option String := none
  output? : Option String := none
  inSize : Nat := 512
  outSize : Nat := 512
  /-- Whether blocks are written as they were read. -/
  isDirect : Bool := false
  count? : Option Nat := none
  countIsBytes : Bool := false
  /-- How many bytes of the input are passed over. -/
  skipped : Nat := 0
  /-- How many bytes of the output are passed over. -/
  sought : Nat := 0
  conversions : List String := []
  inFlags : List String := []
  outFlags : List String := []
  status : String := ""

namespace BlockCopy

/-- The multipliers that letters after a number stand for. -/
def multipliers : List (String × Nat) := [("", 1), ("c", 1), ("w", 2), ("b", 512), ("kB", 1000),
  ("k", 1024), ("K", 1024), ("KiB", 1024), ("MB", 1000000), ("M", 1048576), ("MiB", 1048576),
  ("GB", 1000000000), ("G", 1073741824), ("GiB", 1073741824)]

/-- Reads a number: a product of numbers with multipliers. Gives whether it counts bytes too. -/
def readNumber? (text : String) : Option (Nat × Bool) := do
  let inBytes := text.endsWith "B" &&
    !(["kB", "MB", "GB", "iB"].any fun e => text.endsWith e)
  let text := if inBytes then String.ofList text.toList.dropLast else text
  let factors ← (Text.splitOn 'x' text.toList).mapM fun cs => do
    let ds := cs.takeWhile Char.isDigit
    let n ← natural? (String.ofList ds)
    let m ← multipliers.lookup (String.ofList (cs.drop ds.length))
    return n * m
  return (factors.foldl (· * ·) 1, inBytes)

/-- The conversions that are known. -/
def knownConversions : List String := ["ucase", "lcase", "swab", "sync", "notrunc", "noerror",
  "excl", "nocreat", "fsync", "fdatasync", "sparse"]

/-- The flags that are known. -/
def knownFlags : List String := ["fullblock", "count_bytes", "skip_bytes", "seek_bytes", "append",
  "sync", "dsync", "direct", "nonblock", "noatime", "nocache", "noctty", "nofollow", "directory",
  "nolinks", "binary", "text"]

/-- The conversions that need blocks to be put together anew. -/
def regroupingConversions : List String := ["ucase", "lcase", "swab"]

/-- What has been read of the operands, with what depends on several of them. -/
structure Draft where
  copy : BlockCopy := {}
  size? : Option Nat := none
  skip : Nat × Bool := (0, false)
  seek : Nat × Bool := (0, false)

/-- What is wrong with an operand, and whether it is told how to call the program. -/
abbrev Fault := String × Bool

/-- Reads an operand. -/
def readOperand (d : Draft) (text : String) : Except Fault Draft := do
  let cs := text.toList
  let key := String.ofList (cs.takeWhile (· ≠ '='))
  let value := String.ofList (cs.drop (key.length + 1))
  let number : Except Fault (Nat × Bool) :=
    match readNumber? value with
    | some n => .ok n
    | none => .error ("invalid number: " ++ quoted value, false)
  let size : Except Fault Nat := do
    let (n, _) ← number
    if n = 0 then .error ("invalid number: " ++ quoted value, false) else .ok n
  let words (known : List String) (what : String) : Except Fault (List String) := do
    let all := (Text.splitOn ',' value.toList).map String.ofList
    match all.find? fun w => !known.contains w with
    | some w => .error ("invalid " ++ what ++ ": " ++ quoted w, true)
    | none => return all
  if !cs.contains '=' then .error ("unrecognized operand " ++ quoted text, true)
  else match key with
  | "if" => return { d with copy := { d.copy with input? := some value } }
  | "of" => return { d with copy := { d.copy with output? := some value } }
  | "bs" => return { d with size? := some (← size) }
  | "ibs" => return { d with copy := { d.copy with inSize := ← size } }
  | "obs" => return { d with copy := { d.copy with outSize := ← size } }
  | "cbs" =>
    discard size
    return d
  | "count" =>
    let (n, inBytes) ← number
    return { d with copy := { d.copy with
      count? := some n, countIsBytes := d.copy.countIsBytes || inBytes } }
  | "skip" | "iseek" => return { d with skip := ← number }
  | "seek" | "oseek" => return { d with seek := ← number }
  | "conv" =>
    return { d with copy := { d.copy with conversions := ← words knownConversions "conversion" } }
  | "iflag" => return { d with copy := { d.copy with inFlags := ← words knownFlags "input flag" } }
  | "oflag" =>
    return { d with copy := { d.copy with outFlags := ← words knownFlags "output flag" } }
  | "status" =>
    if ["none", "noxfer", "progress"].contains value then
      return { d with copy := { d.copy with status := value } }
    else .error ("invalid status level: " ++ quoted value, true)
  | _ => .error ("unrecognized operand " ++ quoted text, true)

/-- Reads all operands. -/
def read (operands : List String) : Except Fault BlockCopy := do
  let d ← operands.foldlM readOperand {}
  let copy := match d.size? with
    | some n => { d.copy with
        inSize := n, outSize := n
        isDirect := !d.copy.conversions.any regroupingConversions.contains }
    | none => d.copy
  let flagged (flag : String) : Bool := (copy.inFlags ++ copy.outFlags).contains flag
  let bytes (n : Nat × Bool) (flag : String) (unit : Nat) : Nat :=
    if n.2 || flagged flag then n.1 else n.1 * unit
  return { copy with
    countIsBytes := copy.countIsBytes || flagged "count_bytes"
    skipped := bytes d.skip "skip_bytes" copy.inSize
    sought := bytes d.seek "seek_bytes" copy.outSize }

/-- What becomes of the bytes of a block. -/
def convert (b : BlockCopy) (bytes : ByteArray) : ByteArray :=
  let has := b.conversions.contains
  let bs := bytes.toList
  let bs := if has "sync" then bs ++ List.replicate (b.inSize - bs.length) 0 else bs
  let bs := if has "swab" then swapPairs bs else bs
  let change (f : Char → Char) (bs : List UInt8) : List UInt8 :=
    bs.map fun x => octetByte (f (octet x))
  let bs := if has "ucase" then change Char.toUpper bs
    else if has "lcase" then change Char.toLower bs else bs
  if b.conversions.isEmpty then bytes else packed bs
where
  /-- Bytes with every two of them exchanged. -/
  swapPairs : List UInt8 → List UInt8
    | x :: y :: rest => y :: x :: swapPairs rest
    | rest => rest

/-- How far a copy has come: the blocks that were read and written, whole and in part, the bytes
that were written, and those that wait for their block to be complete. -/
structure Progress where
  inFull : Nat := 0
  inPart : Nat := 0
  outFull : Nat := 0
  outPart : Nat := 0
  written : Nat := 0
  waiting : ByteArray := ByteArray.empty

/-- Writes a block. -/
def Progress.put (p : Progress) (b : BlockCopy) (bytes : ByteArray) :
    Action (Except FileError Progress) := do
  match ← writeBytes 1 bytes with
  | some e => return .error e
  | none =>
    let p := { p with written := p.written + bytes.size }
    return .ok (if bytes.size = b.outSize then { p with outFull := p.outFull + 1 }
      else { p with outPart := p.outPart + 1 })

/-- Writes the blocks that are complete. -/
def Progress.flush (p : Progress) (b : BlockCopy) : Nat → Action (Except FileError Progress)
  | 0 => return .ok p
  | steps + 1 => do
    if p.waiting.size < b.outSize then return .ok p
    else
      let rest := p.waiting.extract b.outSize p.waiting.size
      match ← p.put b (p.waiting.extract 0 b.outSize) with
      | .error e => return .error e
      | .ok p => Progress.flush { p with waiting := rest } b steps

/-- Reads a block; one that has to be full is read in several pieces if need be. -/
def readBlock (isFull : Bool) (size : Nat) : Nat → ByteArray →
    Action (Except FileError ByteArray)
  | 0, found => return .ok found
  | steps + 1, found => do
    match ← ask (.read 0 (size - found.size)) with
    | .error e => return .error e
    | .ok bytes =>
      let all := found ++ bytes
      if bytes.size = 0 || all.size = size || !isFull then return .ok all
      else readBlock isFull size steps all

/-- Why a copy ended before its time: something could not be read or written. -/
inductive Failure where
  | reading (e : FileError)
  | writing (e : FileError)

/-- Copies blocks. -/
def copyBlocks (b : BlockCopy) : Nat → Nat → Progress → Action (Progress × Option Failure)
  | 0, _, p => return (p, none)
  | steps + 1, taken, p => do
    let left := match b.count? with
      | none => b.inSize
      | some n => if b.countIsBytes then min b.inSize (n - taken)
        else if p.inFull + p.inPart < n then b.inSize else 0
    if left = 0 then return (p, none)
    else match ← readBlock (b.inFlags.contains "fullblock") left 1000000 ByteArray.empty with
    | .error .interrupted => copyBlocks b steps taken p
    | .error e => return (p, some (.reading e))
    | .ok bytes =>
      if bytes.size = 0 then return (p, none)
      else
        let p := if bytes.size = b.inSize then { p with inFull := p.inFull + 1 }
          else { p with inPart := p.inPart + 1 }
        let out := b.convert bytes
        let result ← if b.isDirect then p.put b out
          else Progress.flush { p with waiting := p.waiting ++ out } b maxSteps
        match result with
        | .error e => return (p, some (.writing e))
        | .ok p => copyBlocks b steps (taken + bytes.size) p

/-- Passes over bytes of the input; gives whether there were that many. -/
def skipInput : Nat → Nat → Action Bool
  | 0, _ => return false
  | steps + 1, count => do
    if count = 0 then return true
    else match ← ask (.read 0 (min count blockSize)) with
    | .error _ => return false
    | .ok bytes => if bytes.size = 0 then return false else skipInput steps (count - bytes.size)

/-- A number of bytes as it is told. -/
def toldSize (n : Nat) : String :=
  decimal n ++ (if n = 1 then " byte copied" else " bytes copied")

/-- Says how much was copied. -/
def tell (b : BlockCopy) (c : Call) (p : Progress) : Action Unit := do
  if b.status ≠ "none" then
    let records (full part : Nat) (what : String) : String :=
      decimal full ++ "+" ++ decimal part ++ " records " ++ what ++ "\n"
    let size := if b.status = "noxfer" then "" else toldSize p.written ++ ", 0.0001 s, 1.0 MB/s\n"
    c.note (records p.inFull p.inPart "in" ++ records p.outFull p.outPart "out" ++ size)

/-- Lets a number stand for an opened file. -/
def take (number source : Nat) : Action Unit := do
  if source ≠ number then
    discard (ask (.replace source number))
    discard (ask (.close source))

/-- Opens the file that is read. -/
def openInput (b : BlockCopy) : Action (Option (String × FileError)) := do
  match b.input? with
  | none => return none
  | some path =>
    match ← ask (.open path { read := true }) with
    | .error e => return some (path, e)
    | .ok n =>
      take 0 n
      return none

/-- Opens the file that is written. -/
def openOutput (b : BlockCopy) : Action (Option (String × FileError)) := do
  match b.output? with
  | none => return none
  | some path =>
    let has := b.conversions.contains
    let keeps := has "notrunc"
    match ← ask (.open path {
        write := true, create := !has "nocreat", fresh := has "excl"
        append := b.outFlags.contains "append", truncate := !keeps && b.sought = 0 }) with
    | .error e => return some (path, e)
    | .ok n =>
      if !keeps && b.sought ≠ 0 then discard (ask (.change (.truncate path b.sought)))
      take 1 n
      return none

/-- Copies what operands describe. -/
def run (b : BlockCopy) (c : Call) : Action Nat := do
  let inName := b.input?.getD "standard input"
  let outName := b.output?.getD "standard output"
  match ← b.openInput with
  | some (path, e) => c.fail 1 ("failed to open " ++ quoted path ++ ": " ++ e.reason)
  | none =>
    match ← b.openOutput with
    | some (path, e) => c.fail 1 ("failed to open " ++ quoted path ++ ": " ++ e.reason)
    | none =>
      if b.sought ≠ 0 then discard (ask (.seek 1 ((b.sought : Nat) : Int) .here))
      if !(← skipInput maxSteps b.skipped) && b.status ≠ "none" then
        c.complain (shown inName ++ ": cannot skip to specified offset")
      let (p, failure?) ← b.copyBlocks maxSteps 0 {}
      let (p, failure?) ← match failure? with
        | some (.writing e) => pure (p, some (Failure.writing e))
        | failure? =>
          if p.waiting.size = 0 then pure (p, failure?)
          else match ← p.put b p.waiting with
            | .ok p => pure (p, failure?)
            | .error e => pure (p, some (Failure.writing e))
      match failure? with
      | some (.reading e) => c.complain ("error reading " ++ quoted inName ++ ": " ++ e.reason)
      | some (.writing e) => c.complain ("error writing " ++ quoted outName ++ ": " ++ e.reason)
      | none => pure ()
      b.tell c p
      return if failure?.isSome then 1 else 0

end BlockCopy

/-- Copies a file in blocks. -/
def dd : Program := fun c =>
  c.withWords [] fun w =>
    match BlockCopy.read w.operands with
    | .ok b => b.run c
    | .error (reason, true) => c.misused 1 reason
    | .error (reason, false) => c.fail 1 reason

end LuaBundler.Utility
