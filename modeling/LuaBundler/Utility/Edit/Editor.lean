import LuaBundler.Utility.Edit.Script
import LuaBundler.Utility.Entries
import LuaBundler.Utility.Launching
import LuaBundler.Utility.LineSource

/-!
# Editing streams

An editor takes the lines of its files one after the other and runs a script on each. It keeps the
line it works on and a second text, and knows whether a line is the last one, for which it looks
ahead.

A line that lacks its end is written without one; the end comes when something else is to be written
after it.
-/

namespace LuaBundler.Utility.Edit

open LuaBundler.Files LuaBundler.System LuaBundler.Text

/-- The commands whose ranges start before the first line. -/
def Script.early (s : Script) : List Nat :=
  (List.range s.commands.size).filter fun i =>
    match s.commands[i]?.bind (·.selector.first?) with
    | some (.line 0) => true
    | _ => false

/-! ### The state of an editor -/

/-- How an editor works. -/
structure Mode where
  silent : Bool := false
  /-- Whether each file has a last line of its own. -/
  separate : Bool := false
  /-- Whether files are replaced, and the suffix of what is kept of them. -/
  inPlace? : Option String := none
  ending : Char := '\n'
  width : Nat := 70
  strict : Bool := false

/-- A text that an editor works on, and whether its line had an end. -/
structure Space where
  text : String := ""
  hasEnd : Bool := true

/-- What is written at the end of a cycle. -/
inductive Addition where
  | text (s : String)
  | file (path : String)
  | lineOf (path : String)

/-- A file that an editor writes to. -/
structure Target where
  path : String
  number : Nat
  lacksEnd : Bool := false

/-- How far the range of a command has come, with its last line if that is known. -/
inductive Progress where
  | entered (last? : Option Nat)
  | left

/-- The state of an editor. -/
structure Editor where
  mode : Mode
  script : Script
  call : Call
  /-- The files that are still to be opened. -/
  files : List String
  source? : Option LineSource := none
  name : String := "-"
  /-- The next line, if it has been looked at. -/
  ahead? : Option Line := none
  line : Nat := 0
  space : Space := {}
  hold : Space := {}
  hasChanged : Bool := false
  /-- The commands whose ranges have been entered. -/
  ranges : List (Nat × Progress) := []
  /-- What is written at the end of the cycle, the last one first. -/
  additions : List Addition := []
  output : Gathered := {}
  /-- What has been written of a file that is replaced. -/
  edited : String := ""
  lacksEnd : Bool := false
  targets : List Target := []
  /-- The files whose lines are taken one by one. -/
  readers : List (String × LineSource) := []
  lastRegex? : Option Regex.Compiled := none
  status : Nat := 0

/-- What an editor does. -/
abbrev Editing := StateT Editor Action

namespace Editing

/-- Asks the system. -/
def ask (r : Request) : Editing r.Answer :=
  StateT.lift (Action.ask r)

/-- Writes what was gathered. -/
def flush : Editing Unit := do
  let e ← get
  let output ← StateT.lift e.output.flush
  modify fun e => { e with output }

/-- Complains. -/
def complain (reason : String) : Editing Unit := do
  StateT.lift ((← get).call.complain reason)

/-- Complains, and ends the program. -/
def give {α : Type} (reason : String) (status : Nat := 4) : Editing α := do
  complain reason
  flush
  StateT.lift (Action.exit status)

/-! ### Writing -/

/-- Writes a text as it is. -/
def putRaw (text : String) : Editing Unit := do
  let e ← get
  if e.mode.inPlace?.isSome then set { e with edited := e.edited ++ text }
  else
    let output ← StateT.lift (e.output.put text)
    modify fun e => { e with output }

/-- Writes the end that the last line lacks. -/
def endLine : Editing Unit := do
  let e ← get
  if e.lacksEnd then
    putRaw (String.singleton e.mode.ending)
    modify fun e => { e with lacksEnd := false }

/-- Writes a text after the end of the last line. -/
def put (text : String) : Editing Unit := do
  endLine
  putRaw text

/-- Writes a text with its end if it has one. -/
def putSpace (s : Space) : Editing Unit := do
  let ending := (← get).mode.ending
  put (if s.hasEnd then s.text.push ending else s.text)
  modify fun e => { e with lacksEnd := !s.hasEnd }

/-- Writes a text with its end to a file. -/
def putTo (path : String) (s : Space) : Editing Unit := do
  if path = "/dev/stdout" then putSpace s
  else
    let e ← get
    match e.targets.find? (·.path == path) with
    | none => pure ()
    | some t =>
      let start := if t.lacksEnd then String.singleton e.mode.ending else ""
      let text := if s.hasEnd then s.text.push e.mode.ending else s.text
      discard (StateT.lift (write t.number (start ++ text)))
      modify fun e => { e with targets := e.targets.map fun u =>
        if u.path = path then { u with lacksEnd := !s.hasEnd } else u }

/-! ### Reading -/

/-- Where a file is written that is to replace another one. -/
def besides (path : String) : String :=
  let dir := parentOf path
  if dir = "." && !path.startsWith "./" then "sedZ7Q2xA" else joinPath dir "sedZ7Q2xA"

/-- The name of what is kept of a file. -/
def keptName (path suffix : String) : String :=
  let base := lastName path
  let name := if suffix.contains '*' then base.intercalate (suffix.splitOn "*") else base ++ suffix
  if name.contains '/' then name
  else
    let dir := parentOf path
    if dir = "." && !path.startsWith "./" then name else joinPath dir name

/-- Replaces the file that has been read by what was written. -/
def replaceFile : Editing Unit := do
  let e ← get
  match e.mode.inPlace?, e.source? with
  | some suffix, some _ =>
    let path := e.name
    let other := besides path
    discard (StateT.lift (writeFile other e.edited))
    match ← ask (.facts path true) with
    | .ok f => discard (ask (.change (.setMode other (f.mode &&& 0o7777))))
    | .error _ => pure ()
    if suffix ≠ "" then discard (ask (.change (.rename path (keptName path suffix))))
    discard (ask (.change (.rename other path)))
    modify fun e => { e with edited := "", lacksEnd := false }
  | _, _ => pure ()

/-- Closes the file that has been read. -/
def closeSource : Editing Unit := do
  match (← get).source? with
  | none => pure ()
  | some s =>
    replaceFile
    if s.number ≠ 0 then discard (ask (.close s.number))
    modify fun e => { e with source? := none }

/-- Opens a file. -/
def openSource (path : String) : Editing Unit := do
  let ending := (← get).mode.ending
  let inPlace := (← get).mode.inPlace?.isSome
  if path = "-" && !inPlace then
    modify fun e => { e with source? := some { number := 0, ending }, name := "-" }
  else match ← ask (.open path { read := true }) with
  | .error e =>
    complain ("can't read " ++ path ++ ": " ++ e.reason)
    modify fun e => { e with status := 2 }
  | .ok number =>
    let isFile ← do
      match ← ask (.openFacts number) with
      | .ok f => pure (decide (f.kind = .file))
      | .error _ => pure false
    if inPlace && !isFile then
      complain ("couldn't edit " ++ path ++ ": not a regular file")
      modify fun e => { e with status := 4 }
    else
      modify fun e => { e with source? := some { number, ending }, name := path }
      if (← get).mode.separate then
        modify fun e => { e with
          line := 0, ranges := e.script.early.map (·, .entered none), hold := {}, readers := [] }

/-- Looks at the next line of the file that is read. -/
def lookIntoSource : Editing Bool := do
  let e ← get
  if e.ahead?.isSome then return true
  else match e.source? with
  | none => return false
  | some s =>
    match ← StateT.lift s.next with
    | .error failure => give ("read error on " ++ e.name ++ ": " ++ failure.reason)
    | .ok (none, _) => return false
    | .ok (some line, s) =>
      modify fun e => { e with source? := some s, ahead? := some line }
      return true

/-- Looks at the next line, in the files after the one that is read if need be. -/
def lookAhead : Nat → Editing Bool
  | 0 => return false
  | steps + 1 => do
    if ← lookIntoSource then return true
    else
      closeSource
      match (← get).files with
      | [] => return false
      | path :: files =>
        modify fun e => { e with files }
        openSource path
        lookAhead steps

/-- Whether there is no line after this one. -/
def isLast : Editing Bool := do
  let e ← get
  if ← lookIntoSource then return false
  else if e.mode.separate && e.source?.isSome then return true
  else return !(← lookAhead (e.files.length + 2))

/-- Takes the next line, if there is one. -/
def takeLine : Editing (Option Line) := do
  let e ← get
  if ← lookAhead (e.files.length + 2) then
    let line? := (← get).ahead?
    modify fun e => { e with ahead? := none, line := e.line + 1, hasChanged := false }
    return line?
  else return none

/-! ### Additions -/

/-- The next line of a file whose lines are taken one by one. -/
def takeLineOf (path : String) : Editing (Option Line) := do
  let e ← get
  let source? ← match e.readers.lookup path with
    | some s => pure (some s)
    | none => do
      match ← ask (.open path { read := true }) with
      | .ok number => pure (some { number, ending := e.mode.ending })
      | .error _ => pure none
  match source? with
  | none => return none
  | some s =>
    match ← StateT.lift s.next with
    | .ok (line?, s) =>
      modify fun e => { e with readers := (path, s) :: e.readers.filter (·.1 != path) }
      return line?
    | .error _ => return none

/-- Writes what is to be written at the end of a cycle. -/
def putAdditions : Editing Unit := do
  let additions := (← get).additions.reverse
  modify fun e => { e with additions := [] }
  for a in additions do
    match a with
    | .text s => put s
    | .file path =>
      let path := if path = "/dev/stdin" then "-" else path
      match ← StateT.lift (readFile path) with
      | .ok text => put text
      | .error .isDirectory => give ("read error on " ++ path ++ ": " ++ FileError.isDirectory.reason)
      | .error _ => pure ()
    | .lineOf path =>
      match ← takeLineOf path with
      | some line =>
        let ending := (← get).mode.ending
        put (if line.hasEnd then line.text.push ending else line.text)
      | none => pure ()

/-! ### Which lines are meant -/

/-- The regular expression of a pattern, which is the last one from now on. -/
def regexOf (p : Pattern) : Editing Regex.Compiled := do
  match p.regex?, (← get).lastRegex? with
  | some r, _ =>
    modify fun e => { e with lastRegex? := some r }
    return r
  | none, some r => return r
  | none, none => give "-e expression #1, char 0: no previous regular expression" 1

/-- Whether the line matches a pattern. -/
def meets (p : Pattern) : Editing Bool := do
  let r ← regexOf p
  return (r.search? (arrayOfOctets (← get).space.text) 0 p.byLines).isSome

/-- Whether the line is one that an address means. -/
def isAt (a : Address) : Editing Bool := do
  let line := (← get).line
  match a with
  | .line n => return line = n
  | .every first step => return first ≤ line && (line - first) % step = 0
  | .last => isLast
  | .pattern p => meets p

/-- Takes note of how far the range of a command has come. -/
def setProgress (index : Nat) (p : Progress) : Editing Unit :=
  modify fun e => { e with ranges := (index, p) :: e.ranges.filter (·.1 != index) }

/-- Whether the line is one in a range that has been entered. A range that ends at a given line is
over if that line has been missed. -/
def goesOn (index : Nat) (b : Bound) (last? : Option Nat) : Editing Bool := do
  let line := (← get).line
  match b, last? with
  | .line _, some last =>
    if last ≤ line then setProgress index .left
    return line ≤ last
  | _, some last =>
    if last ≤ line then setProgress index .left
    return true
  | .pattern p, none =>
    if ← meets p then setProgress index .left
    return true
  | _, none =>
    if ← isLast then setProgress index .left
    return true

/-- Whether a range starts by its first address: one that starts at a given line also starts at a
later one, but only once. -/
def isReached (a : Address) (hasLeft : Bool) : Editing Bool := do
  match a with
  | .line n => return !hasLeft && n ≤ (← get).line
  | a => isAt a

/-- Whether the line is the first one of a range, which is entered unless it ends here. -/
def starts (index : Nat) (a : Address) (b : Bound) (hasLeft : Bool) : Editing Bool := do
  let line := (← get).line
  if !(← isReached a hasLeft) then return false
  else match b with
  | .line last =>
    if line < last then
      setProgress index (.entered (some last))
      return true
    else
      setProgress index .left
      return match a with
        | .line first => line = first || line = last
        | _ => true
  | .after count =>
    setProgress index (if count = 0 then .left else .entered (some (line + count)))
    return true
  | .multiple n =>
    setProgress index (.entered (some ((line / n + 1) * n)))
    return true
  | _ =>
    setProgress index (.entered none)
    return true

/-- Whether the line is one that a selector of a command means. -/
def isMeant (index : Nat) (s : Selector) : Editing Bool := do
  let meant ← match s.first?, s.bound? with
    | none, _ => pure true
    | some a, none => isAt a
    | some a, some b =>
      match (← get).ranges.lookup index with
      | some (.entered last?) => goesOn index b last?
      | some .left => starts index a b true
      | none => starts index a b false
  return meant != s.isNegated

/-! ### Substitutions -/

/-- A text in a case, the first character of which may be in another one. -/
def recase (casing first : Casing) (text : String) : String :=
  let apply (k : Casing) (c : Char) : Char := match k with
    | .keep => c
    | .upper => c.toUpper
    | .lower => c.toLower
  match text.toList with
  | [] => ""
  | c :: cs => String.ofList (apply (if first = .keep then casing else first) c ::
      cs.map (apply casing))

/-- The text of a replacement. -/
def replacement (text : ByteArray) (m : Regex.Compiled.Match) : Casing → Casing → List Part → String
  | _, _, [] => ""
  | _, _, .casing c :: ps => replacement text m c .keep ps
  | casing, _, .oneCasing c :: ps => replacement text m casing c ps
  | casing, first, .text s :: ps => recase casing first s ++ replacement text m casing .keep ps
  | casing, first, .group n :: ps =>
    match m.getD n none with
    | some (a, b) =>
      if a = b then replacement text m casing first ps
      else recase casing first (octetsOfArray (text.extract a b)) ++
        replacement text m casing .keep ps
    | none => replacement text m casing first ps

/-- Replaces matches in a text from a position on; gives the pieces, the last one first, and whether
something was replaced. -/
def replaceWithin (r : Regex.Compiled) (s : Substitution) (text : ByteArray) :
    Nat → Nat → Nat → Option Nat → Bool → List String → List String × Bool
  | 0, _, _, _, changed, pieces => (pieces, changed)
  | steps + 1, start, count, previous?, changed, pieces =>
    let piece (a b : Nat) : String := octetsOfArray (text.extract a b)
    let rest := piece start text.size :: pieces
    if text.size < start then (pieces, changed)
    else match r.search? text start s.pattern.byLines with
    | none => (rest, changed)
    | some m =>
      match m.getD 0 none with
      | none => (rest, changed)
      | some (a, b) =>
        let isRepeated := a = b && previous? = some a
        let count := if isRepeated then count else count + 1
        let isReplaced := !isRepeated && s.number ≤ count
        let pieces := piece start a :: pieces
        let pieces :=
          if isRepeated then pieces
          else if isReplaced then replacement text m .keep .keep s.parts :: pieces
          else piece a b :: pieces
        let changed := changed || isReplaced
        if isReplaced && !s.isGlobal then (piece b text.size :: pieces, changed)
        else if a = b then
          replaceWithin r s text steps (b + 1) count (some b) changed
            (piece b (min (b + 1) text.size) :: pieces)
        else replaceWithin r s text steps b count (some b) changed pieces

/-- What a command of the shell writes. -/
def outputOf (text : String) : Editing String := do
  flush
  let e ← get
  let (source, target) ← ask .pipe
  let child : Action Nat := do
    discard (Action.ask (.replace target 1))
    discard (Action.ask (.close source))
    discard (Action.ask (.close target))
    discard (becomeProgram ["sh", "-c", text] e.call.env)
    return 127
  let id ← StateT.lift (Action.fork child)
  discard (ask (.close target))
  let written ← StateT.lift (readRest source)
  discard (ask (.close source))
  discard (StateT.lift (awaitChild id maxSteps))
  return match written with
    | .ok text => text
    | .error _ => ""

/-- Runs the line as a command of the shell; what it writes takes its place. -/
def executeSpace : Editing Unit := do
  let text ← outputOf (← get).space.text
  let text := if text.endsWith "\n" then String.ofList (text.toList.dropLast) else text
  modify fun e => { e with space := { e.space with text } }

/-- Does a substitution. -/
def substitute (s : Substitution) : Editing Unit := do
  let r ← regexOf s.pattern
  let text := arrayOfOctets (← get).space.text
  let (pieces, changed) := replaceWithin r s text (2 * text.size + 4) 0 0 none false []
  if changed then
    let text := pieces.reverse.foldl (· ++ ·) ""
    modify fun e => { e with hasChanged := true, space := { e.space with text } }
    if s.executes then executeSpace
    if s.prints then putSpace (← get).space
    match s.file? with
    | some path => putTo path (← get).space
    | none => pure ()

/-! ### Listing -/

/-- A character as it is listed. -/
def listedChar (c : Char) : String :=
  if c = '\\' then "\\\\"
  else match "\x07\x08\x0c\n\r\t\x0b".toList.findIdx? (· == c) with
  | some i => String.ofList ['\\', "abfnrtv".toList.getD i 'a']
  | none =>
    if isPrintable c then String.singleton c
    else
      let n := c.toNat
      "\\" ++ String.ofList ([n / 64, n / 8 % 8, n % 8].map fun d => Char.ofNat (48 + d))

/-- A text as it is listed in lines of a width. -/
def listed (width : Nat) : Nat → List Char → String
  | _, [] => "$\n"
  | column, c :: cs =>
    let shown := listedChar c
    if width ≠ 0 && width - 1 < column + shown.length then
      "\\\n" ++ shown ++ listed width shown.length cs
    else shown ++ listed width (column + shown.length) cs

/-! ### Commands -/

/-- How the script ends for a line. -/
inductive Ending where
  | usual
  /-- Without printing the line. -/
  | silent
  /-- Without taking a new line. -/
  | restart
  | quit (status : Nat)

/-- What comes after a command. -/
inductive After where
  | at (index : Nat)
  | ends (e : Ending)

/-- Changes the text that is worked on. -/
def setText (f : String → String) : Editing Unit :=
  modify fun e => { e with space := { e.space with text := f e.space.text } }

/-- One text after another, which ends as the second one does. -/
def joined (ending : Char) (a b : Space) : Space :=
  ⟨a.text.push ending ++ b.text, b.hasEnd⟩

/-- The first line of a text, and the rest if it has more. -/
def firstLine (ending : Char) (text : String) : String × Option String :=
  let first := text.toList.takeWhile (· ≠ ending)
  match text.toList.drop first.length with
  | _ :: rest => (String.ofList first, some (String.ofList rest))
  | [] => (text, none)

/-- Whether a command is not within a range that goes on. -/
def isRangeOver (index : Nat) : Editing Bool := do
  return match (← get).ranges.lookup index with
    | some (.entered _) => false
    | _ => true

/-- Where a jump goes. -/
def targetOf (label : String) : Editing Nat := do
  let script := (← get).script
  return (if label = "" then none else script.labels.lookup label).getD script.commands.size

/-- Does a command at an index. -/
def perform (index : Nat) (c : Command) : Editing After := do
  let goOn : After := .at (index + 1)
  let e ← get
  let ending := e.mode.ending
  match c.verb with
  | .block _ | .nothing => return goOn
  | .number =>
    put (decimal e.line ++ "\n")
    return goOn
  | .append text =>
    modify fun e => { e with additions := .text text :: e.additions }
    return goOn
  | .insert text =>
    put text
    return goOn
  | .change text =>
    if ← isRangeOver index then put text
    return .ends .silent
  | .jump label time =>
    let jumps := match time with
      | .always => true
      | .afterChange => e.hasChanged
      | .withoutChange => !e.hasChanged
    if time ≠ .always then modify fun e => { e with hasChanged := false }
    let target ← targetOf label
    return if jumps then .at target else goOn
  | .delete => return .ends .silent
  | .deleteLine =>
    match firstLine ending e.space.text with
    | (_, none) => return .ends .silent
    | (_, some rest) =>
      setText fun _ => rest
      return .ends .restart
  | .getHold =>
    modify fun e => { e with space := e.hold }
    return goOn
  | .addHold =>
    modify fun e => { e with space := joined ending e.space e.hold }
    return goOn
  | .keep =>
    modify fun e => { e with hold := e.space }
    return goOn
  | .addKeep =>
    modify fun e => { e with hold := joined ending e.hold e.space }
    return goOn
  | .swap =>
    modify fun e => { e with space := e.hold, hold := e.space }
    return goOn
  | .list width? =>
    put (listed (width?.getD e.mode.width) 0 e.space.text.toList)
    return goOn
  | .next =>
    if ← isLast then
      return .ends (if e.mode.strict then .silent else .usual)
    else
      if !e.mode.silent then putSpace (← get).space
      putAdditions
      match ← takeLine with
      | none => return .ends .silent
      | some line =>
        modify fun e => { e with space := ⟨line.text, line.hasEnd⟩ }
        return goOn
  | .addNext =>
    if ← isLast then
      return .ends (if e.mode.strict then .silent else .usual)
    else
      putAdditions
      match ← takeLine with
      | none => return .ends .silent
      | some line =>
        modify fun e => { e with space := joined ending e.space ⟨line.text, line.hasEnd⟩ }
        return goOn
  | .print =>
    putSpace e.space
    return goOn
  | .printLine =>
    putSpace ⟨(firstLine ending e.space.text).1, true⟩
    return goOn
  | .quit status prints =>
    if prints then
      if !e.mode.silent then putSpace e.space
      putAdditions
    return .ends (.quit status)
  | .readFile path =>
    modify fun e => { e with additions := .file path :: e.additions }
    return goOn
  | .readLine path =>
    modify fun e => { e with additions := .lineOf path :: e.additions }
    return goOn
  | .writeFile path =>
    putTo path e.space
    return goOn
  | .writeLine path =>
    putTo path ⟨(firstLine ending e.space.text).1, true⟩
    return goOn
  | .substitute s =>
    substitute s
    return goOn
  | .translate source target =>
    let pairs := source.zip target
    setText fun text => String.ofList (text.toList.map fun d => (pairs.lookup d).getD d)
    return goOn
  | .zap =>
    setText fun _ => ""
    return goOn
  | .fileName =>
    put (e.name ++ "\n")
    return goOn
  | .execute text =>
    if text = "" then executeSpace
    else put (← outputOf text)
    return goOn

/-- Runs the script from an index on. -/
def runFrom : Nat → Nat → Editing Ending
  | 0, _ => return .usual
  | steps + 1, index => do
    let e ← get
    match e.script.commands[index]? with
    | none => return .usual
    | some c =>
      if ← isMeant index c.selector then
        match ← perform index c with
        | .at next =>
          if next ≤ index then ask (.work 1)
          runFrom steps next
        | .ends ending => return ending
      else match c.verb with
        | .block next => runFrom steps next
        | _ => runFrom steps (index + 1)

/-- Goes through all lines. Gives the status that a command ended it with. -/
def cycles : Nat → Bool → Editing Nat
  | 0, _ => return 0
  | steps + 1, keepsSpace => do
    let hasLine ← if keepsSpace then pure true
      else match ← takeLine with
        | none => pure false
        | some line => do
          modify fun e => { e with space := ⟨line.text, line.hasEnd⟩ }
          pure true
    if !hasLine then return 0
    else match ← runFrom maxSteps 0 with
    | .quit status => return status
    | ending =>
      let e ← get
      match ending with
      | .usual => if !e.mode.silent then putSpace e.space
      | _ => pure ()
      putAdditions
      ask (.work 1)
      cycles steps (match ending with
        | .restart => true
        | _ => false)

/-- Copies the rest of a file that is replaced. -/
def copyRest : Nat → Editing Unit
  | 0 => pure ()
  | steps + 1 => do
    if ← lookIntoSource then
      match (← get).ahead? with
      | some line =>
        putSpace ⟨line.text, line.hasEnd⟩
        modify fun e => { e with ahead? := none }
        copyRest steps
      | none => pure ()

/-- Opens the files that a script writes to. -/
def openTargets : List String → Editing Unit
  | [] => pure ()
  | path :: paths => do
    if path = "/dev/stderr" then
      modify fun e => { e with targets := ⟨path, 2, false⟩ :: e.targets }
    else if path ≠ "/dev/stdout" then
      match ← ask (.open path { write := true, create := true, truncate := true }) with
      | .ok number => modify fun e => { e with targets := ⟨path, number, false⟩ :: e.targets }
      | .error e => give ("couldn't open file " ++ path ++ ": " ++ e.reason)
    openTargets paths

/-- Does all that an editor is started for. -/
def runAll (targets : List String) : Editing Nat := do
  openTargets targets
  modify fun e => { e with ranges := e.script.early.map (·, .entered none) }
  let status ← cycles maxSteps false
  if (← get).mode.inPlace?.isSome then
    copyRest maxSteps
    closeSource
  flush
  let e ← get
  match e.output.failure? with
  | some failure => give ("couldn't write to stdout: " ++ failure.reason)
  | none => return if status = 0 then e.status else status

end Editing

end LuaBundler.Utility.Edit
