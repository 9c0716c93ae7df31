import LuaBundler.Utility.Amounts
import LuaBundler.Utility.Dates
import LuaBundler.Utility.Entries

/-!
# Utilities: making files

Making directories, pipes and files, with names that are given or made up, and setting the times and
the sizes of files.
-/

namespace LuaBundler.Utility

open LuaBundler.Files LuaBundler.System LuaBundler.Text

/-! ### Directories -/

/-- Makes a directory, with those above it if they are missing and may be. -/
def makeDir (c : Call) (deep isVerbose : Bool) (mode? : Option Nat) (path : String) :
    Action Nat := do
  let failed (path : String) (e : FileError) : Action Nat :=
    c.fail 1 ("cannot create directory " ++ quoted path ++ ": " ++ e.reason)
  let make (path : String) (mode? : Option Nat) : Action (Option FileError) := do
    match ← change (.makeDir path 0o777) with
    | some e => return some e
    | none =>
      if isVerbose then say (c.name ++ ": created directory " ++ quoted path)
      match mode? with
      | some mode => change (.setMode path mode)
      | none => return none
  if !deep || path = "" then
    match ← make path mode? with
    | none => return 0
    | some e => failed path e
  else
    makeAll failed make mode? (ancestors path)
where
  /-- Makes directories one after the other that are not there yet. -/
  makeAll (failed : String → FileError → Action Nat)
      (make : String → Option Nat → Action (Option FileError)) (mode? : Option Nat) :
      List String → Action Nat
    | [] => return 0
    | dir :: dirs => do
      match ← make dir (if dirs.isEmpty then mode? else none) with
      | none => makeAll failed make mode? dirs
      | some .exists =>
        if ← isDir dir then makeAll failed make mode? dirs
        else failed dir (if dirs.isEmpty then .exists else .notDirectory)
      | some e => failed dir e

/-- Makes directories. -/
def mkdir : Program := fun c =>
  c.withWords [⟨"p", ["parents"], .plain⟩, ⟨"m", ["mode"], .required⟩,
    ⟨"v", ["verbose"], .plain⟩] fun w => do
    if w.operands.isEmpty then c.misused 1 "missing operand"
    else
      let mask : Nat ← ask (.mask none)
      match w.get? "m" with
      | none => each (makeDir c (w.has "p") (w.has "v") none) 0 w.operands
      | some text =>
        match Mode.ofText? text true mask 0o777 with
        | some mode => each (makeDir c (w.has "p") (w.has "v") (some mode)) 0 w.operands
        | none => c.fail 1 ("invalid mode " ++ cited text)

/-! ### Times -/

/-- Sets the time of a file, which is made if it is missing. A minus sign is the output. -/
def touchOne (c : Call) (mayMake follow : Bool) (time : Int) (path : String) : Action Nat := do
  if path = "-" then return 0
  let opened ← if mayMake && follow then
      ask (.open path { write := true, create := true })
    else pure (.error .isDirectory)
  if let .ok number := opened then discard (ask (.close number))
  match ← change (.setTime path follow time), opened with
  | none, _ => return 0
  | some e, .ok _ | some e, .error .isDirectory =>
    if !mayMake && e = .notFound then return 0
    else c.fail 1 ("setting times of " ++ quoted path ++ ": " ++ e.reason)
  | some _, .error e => c.fail 1 ("cannot touch " ++ quoted path ++ ": " ++ e.reason)

/-- The time that digits tell: month, day, hour and minute, with a century and a year before them
and seconds after a point if they are there. -/
def stampTime? (year : Int) (text : String) : Option Int := do
  let ds := text.toList.takeWhile Char.isDigit
  let second ← match text.toList.drop ds.length with
    | [] => some 0
    | '.' :: cs => if cs.length = 2 then natural? (String.ofList cs) else none
    | _ => none
  let n ← natural? (String.ofList ds)
  let year ← match ds.length with
    | 8 => some year
    | 10 => some (WrittenTime.fullYear (n / 100000000) 2)
    | 12 => some ((n / 100000000 : Nat) : Int)
    | _ => none
  let m : Moment := { year, month := n / 1000000 % 100, day := n / 10000 % 100
                      hour := n / 100 % 100, minute := n % 100, second }
  if WrittenTime.isDay year m.month m.day && m.hour < 24 && m.minute < 60 && second < 61 then
    return m.seconds
  else none

/-- The time that `touch` sets by its options, in microseconds from the start of the system on. -/
def touchTime (w : Words) : Action (Except String Int) := do
  let now ← timeNow
  let ofTime (s : Int) (nanos : Nat) : Int := (s - clockStart) * 1000000 + (nanos / 1000 : Nat)
  let base ← match w.get? "r" with
    | none => pure (Except.ok (ofTime now.1 now.2))
    | some path =>
      match ← ask (.facts path true) with
      | .ok f => pure (.ok f.modified)
      | .error e => pure (.error ("failed to get attributes of " ++ quoted path ++ ": " ++ e.reason))
  match base, w.get? "d", w.get? "t" with
  | .error reason, _, _ => return .error reason
  | .ok time, none, none => return .ok time
  | .ok time, some text, _ =>
    let start := (clockStart + time / 1000000, (time % 1000000).toNat * 1000)
    return match WrittenTime.read? start text with
      | some (s, nanos) => .ok (ofTime s nanos)
      | none => .error ("invalid date format " ++ cited text)
  | .ok _, none, some text =>
    return match stampTime? (Moment.ofSeconds now.1).year text with
      | some s => .ok (ofTime s 0)
      | none => .error ("invalid date format " ++ cited text)

/-- Sets the times of files, which are made if they are missing. -/
def touch : Program := fun c =>
  c.withWords [⟨"a", [], .plain⟩, ⟨"c", ["no-create"], .plain⟩, ⟨"d", ["date"], .required⟩,
    ⟨"f", [], .plain⟩, ⟨"h", ["no-dereference"], .plain⟩, ⟨"m", [], .plain⟩,
    ⟨"r", ["reference"], .required⟩, ⟨"t", [], .required⟩, ⟨"time", ["time"], .required⟩] fun w => do
    if w.has "t" && (w.has "d" || w.has "r") then
      c.misused 1 "cannot specify times from more than one source"
    else match ← touchTime w with
    | .error reason => c.fail 1 reason
    | .ok time =>
      if w.operands.isEmpty then c.misused 1 "missing file operand"
      else each (touchOne c (!(w.has "c")) (!(w.has "h")) time) 0 w.operands

/-! ### Pipes -/

/-- Makes a pipe that has a name. -/
def makeQueue (c : Call) (mode? : Option Nat) (path : String) : Action Nat := do
  match ← change (.makeQueue path 0o666) with
  | some e => c.fail 1 ("cannot create fifo " ++ quoted path ++ ": " ++ e.reason)
  | none =>
    match ← (mode?.mapM fun mode => change (.setMode path mode)) with
    | some (some e) => c.fail 1 ("cannot set permissions of " ++ quoted path ++ ": " ++ e.reason)
    | _ => return 0

/-- Makes pipes that have names. -/
def mkfifo : Program := fun c =>
  c.withWords [⟨"m", ["mode"], .required⟩] fun w => do
    let mask : Nat ← ask (.mask none)
    let mode? := (w.get? "m").map fun text => Mode.ofText? text false mask 0o666
    if mode? = some none then c.fail 1 "invalid mode"
    else if w.operands.isEmpty then c.misused 1 "missing operand"
    else each (makeQueue c mode?.join) 0 w.operands

/-! ### Sizes -/

/-- How a size depends on the size that a file has. -/
inductive SizeChange where
  | set
  | grow
  | shrink
  | atMost
  | atLeast
  | roundDown
  | roundUp
  deriving DecidableEq

/-- A size after a change by an amount. -/
def SizeChange.apply (k : SizeChange) (amount size : Nat) : Nat :=
  match k with
  | .set => amount
  | .grow => size + amount
  | .shrink => size - amount
  | .atMost => min size amount
  | .atLeast => max size amount
  | .roundDown => size / amount * amount
  | .roundUp => (size + amount - 1) / amount * amount

/-- Reads a change of sizes. -/
def readSize (text : String) : Except String (SizeChange × Nat) :=
  let (kind, cs) : SizeChange × List Char := match text.toList with
    | '+' :: cs => (.grow, cs)
    | '-' :: cs => (.shrink, cs)
    | '<' :: cs => (.atMost, cs)
    | '>' :: cs => (.atLeast, cs)
    | '/' :: cs => (.roundDown, cs)
    | '%' :: cs => (.roundUp, cs)
    | cs => (.set, cs)
  match ({ units := "EgGkKmMPQRtTYZ0" } : AmountStyle).read (String.ofList cs) with
  | .error _ => .error ("Invalid number: " ++ cited text)
  | .ok n =>
    if n = 0 && (kind = .roundDown || kind = .roundUp) then .error "division by zero"
    else .ok (kind, n.toNat)

/-- Sets the size of a file. -/
def resizeOne (c : Call) (mayMake : Bool) (size : Nat → Nat) (path : String) : Action Nat := do
  match ← ask (.open path { write := true, create := mayMake }) with
  | .error e =>
    if !mayMake && e = .notFound then return 0
    else c.fail 1 ("cannot open " ++ quoted path ++ " for writing: " ++ e.reason)
  | .ok number =>
    discard (ask (.close number))
    let old := ((← facts? path true).map (·.size)).getD 0
    match ← change (.truncate path (size old)) with
    | none => return 0
    | some e => c.fail 1 ("failed to truncate " ++ quoted path ++ ": " ++ e.reason)

/-- Sets the sizes of files. -/
def truncate : Program := fun c =>
  c.withWords [⟨"c", ["no-create"], .plain⟩, ⟨"o", ["io-blocks"], .plain⟩,
    ⟨"r", ["reference"], .required⟩, ⟨"s", ["size"], .required⟩] fun w => do
    match (w.get? "s").mapM readSize, w.get? "r" with
    | .error reason, _ => c.fail 1 reason
    | .ok none, none => c.misused 1 "you must specify either '--size' or '--reference'"
    | .ok (some (.set, _)), some _ => c.misused 1 "you must specify a relative '--size' with '--reference'"
    | .ok change?, reference? =>
      if w.has "o" && change?.isNone then c.misused 1 "'--io-blocks' was specified but '--size' was not"
      else if w.operands.isEmpty then c.misused 1 "missing file operand"
      else
        let run (size : Nat → Nat) : Action Nat :=
          each (resizeOne c (!w.has "c") size) 0 w.operands
        let unit := if w.has "o" then 4096 else 1
        match reference? with
        | none => run fun old => match change? with
          | some (k, n) => k.apply (n * unit) old
          | none => old
        | some path =>
          match ← ask (.facts path true) with
          | .error e => c.fail 1 ("cannot stat " ++ quoted path ++ ": " ++ e.reason)
          | .ok f => run fun _ => match change? with
            | some (k, n) => k.apply (n * unit) f.size
            | none => f.size

/-! ### Made-up names -/

/-- The letters of names that are made up. -/
def nameLetters : String := "abcdefghijklmnopqrstuvwxyzABCDEFGHIJKLMNOPQRSTUVWXYZ0123456789"

/-- A made-up text of so many letters. -/
def madeUp (seed : Nat) : Nat → String
  | 0 => ""
  | n + 1 =>
    let next := (seed * 1103515245 + 12345) % 2147483648
    String.singleton (nameLetters.toList.getD (next / 65536 % 62) 'a') ++ madeUp next n

/-- A pattern of names: letters are made up for its marks. -/
structure NamePattern where
  start : String
  marks : Nat
  rest : String

namespace NamePattern

/-- Reads a pattern. What follows the last mark is its end, or the end is given. -/
def read (text : String) (end? : Option String) : Except String NamePattern :=
  let reversed := text.toList.reverse
  let rest := if end?.isSome then [] else reversed.takeWhile (· ≠ 'X')
  let rest := if rest.length = reversed.length then [] else rest
  let marked := reversed.drop rest.length
  let marks := (marked.takeWhile (· = 'X')).length
  let suffix := end?.getD (String.ofList rest.reverse)
  if end?.isSome && !text.endsWith "X" then
    .error ("with --suffix, template " ++ cited text ++ " must end in X")
  else if suffix.toList.contains '/' then
    .error ("invalid suffix " ++ cited suffix ++ ", contains directory separator")
  else if marks < 3 then .error ("too few X's in template " ++ cited text)
  else .ok ⟨String.ofList (marked.drop marks).reverse, marks, suffix⟩

/-- The pattern as it is written. -/
def text (p : NamePattern) : String :=
  p.start ++ String.ofList (List.replicate p.marks 'X') ++ p.rest

/-- The pattern below a directory. -/
def below (p : NamePattern) (dir : String) : NamePattern :=
  { p with start := joinPath dir p.start }

end NamePattern

/-- The pattern that options ask for. -/
def namePattern (c : Call) (w : Words) : Except String NamePattern := do
  let p ← NamePattern.read (w.operands.headD "tmp.XXXXXXXXXX") (w.get? "suffix")
  let fromEnv := (c.get? "TMPDIR").filter (· ≠ "")
  let given := match w.last? ["p", "tmpdir"] with
    | some key => (w.get? key).filter (· ≠ "")
    | none => none
  if w.has "t" then
    if p.start.toList.contains '/' then
      .error ("invalid template, " ++ cited (w.operands.headD "") ++ ", contains directory separator")
    return p.below ((fromEnv.or given).getD "/tmp")
  else if w.operands.isEmpty || w.has "p" || w.has "tmpdir" then
    if p.start.startsWith "/" then
      .error ("invalid template, " ++ cited (w.operands.headD "") ++
        "; with --tmpdir, it may not be absolute")
    return p.below ((given.or fromEnv).getD "/tmp")
  else return p

/-- Makes a file or directory with a name that is made up. -/
def mktemp : Program := fun c =>
  c.withWords [⟨"d", ["directory"], .plain⟩, ⟨"u", ["dry-run"], .plain⟩, ⟨"q", ["quiet"], .plain⟩,
    ⟨"p", [], .required⟩, ⟨"tmpdir", ["tmpdir"], .possible⟩, ⟨"suffix", ["suffix"], .required⟩,
    ⟨"t", [], .plain⟩] fun w => do
    if 1 < w.operands.length then c.misused 1 "too many templates"
    else match namePattern c w with
    | .error reason => c.fail 1 reason
    | .ok p =>
      let (process, _) ← ask .identity
      let now : Nat ← ask .now
      let path := p.start ++ madeUp (process * 1000003 + now) p.marks ++ p.rest
      let failure ← if w.has "u" then pure none
        else if w.has "d" then change (.makeDir path 0o700)
        else do
          match ← ask (.open path { write := true, create := true, fresh := true, mode := 0o600 })
            with
          | .ok number =>
            discard (ask (.close number))
            pure none
          | .error e => pure (some e)
      match failure with
      | none => c.finish (path ++ "\n") 0
      | some e =>
        if w.has "q" then return 1
        else c.fail 1 ("failed to create " ++ (if w.has "d" then "directory" else "file") ++
          " via template " ++ quoted p.text ++ ": " ++ e.reason)

end LuaBundler.Utility
