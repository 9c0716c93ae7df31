import LuaBundler.Utility.Launching
import LuaBundler.Utility.LineSource
import LuaBundler.Utility.Records.Reader
import LuaBundler.Utility.Records.Table
import Std.Data.HashMap

/-!
# The state of record programs

A running program has variables and arrays, a record that is cut into fields when one is asked for,
and files and commands that it reads from and writes to.
-/

namespace LuaBundler.Utility.Records

open LuaBundler.Files LuaBundler.System LuaBundler.Text

/-- What a name stands for: a value, or an array of a number. -/
inductive Slot where
  | scalar (v : Value)
  | array (id : Nat)

/-- What records are read from. -/
structure Source where
  number : Nat
  bytes : ByteArray := ByteArray.empty
  /-- Where the next record starts. -/
  start : Nat := 0
  hasEnded : Bool := false

/-- A file or command that is read from. -/
structure Intake where
  name : String
  isCommand : Bool
  source : Source
  child? : Option Nat := none

/-- A file or command that is written to. -/
structure Sink where
  name : String
  isCommand : Bool
  number : Nat
  child? : Option Nat := none
  /-- What is still to be written. -/
  text : String := ""

/-- A way out of statements. -/
inductive Jump where
  | break_
  | continue_
  | next
  | nextFile
  | exit
  | return_ (v : Value)

/-- A running program. -/
structure Machine where
  call : Call
  functions : Std.HashMap String Function
  globals : Std.HashMap String Slot
  /-- The parameters and what they stand for, if a function is running. -/
  params : List (String × Slot) := []
  tables : Std.HashMap Nat Table := ∅
  tableCount : Nat := 0
  record : Value := .absent
  fields : Array Value := #[]
  /-- Whether the record has been cut into fields. -/
  isCut : Bool := true
  /-- Whether a field has been changed since the record was put together. -/
  isStale : Bool := false
  output : Gathered := {}
  sinks : List Sink := []
  intakes : List Intake := []
  input? : Option Source := none
  /-- The number of the next argument. -/
  argument : Nat := 1
  /-- Whether an argument has named a file. -/
  hasFile : Bool := false
  hasEnded : Bool := false
  patterns : Std.HashMap String Regex.Compiled := ∅
  /-- The rules whose ranges have been entered. -/
  entered : List Nat := []
  seed : Value := .number 0.0
  /-- The state of the generator of numbers. -/
  chance : Nat := 1
  status : Nat := 0
  isFinishing : Bool := false

/-- What a running program does. -/
abbrev Running := ExceptT Jump (StateT Machine Action)

namespace Running

/-- Does an action. -/
def act {α : Type} (a : Action α) : Running α :=
  ExceptT.lift (StateT.lift a)

/-- Asks the system. -/
def ask (r : Request) : Running r.Answer :=
  act (Action.ask r)

/-! ### Ends -/

/-- Writes what is still to be written to a sink. -/
def flushSink (s : Sink) : Running Sink := do
  if s.text ≠ "" then discard (act (write s.number s.text))
  return { s with text := "" }

/-- Writes what is still to be written. -/
def flushAll : Running Unit := do
  let m ← get
  let output ← act m.output.flush
  let sinks ← m.sinks.mapM flushSink
  modify fun m => { m with output, sinks }

/-- The status of a child that has ended, as programs see it. -/
def statusOf (e? : Option Ended) : Int :=
  match e? with
  | none => -1
  | some e => match e.signal? with
    | some n => 256 + n
    | none => e.code

/-- Closes a sink; gives the status of its command. -/
def closeSink (s : Sink) : Running Int := do
  discard (flushSink s)
  if s.number ≠ 2 then discard (ask (.close s.number))
  match s.child? with
  | none => return 0
  | some id => return statusOf (← act (awaitChild id maxSteps))

/-- Closes what is read from; gives the status of its command. -/
def closeIntake (i : Intake) : Running Int := do
  if i.source.number ≠ 0 then discard (ask (.close i.source.number))
  match i.child? with
  | none => return 0
  | some id => return statusOf (← act (awaitChild id maxSteps))

/-- Ends the program with a status. -/
def quit {α : Type} (status : Nat) : Running α := do
  for s in (← get).sinks do
    discard (closeSink s)
  let output ← act (← get).output.flush
  match output.failure? with
  | none => act (Action.exit status)
  | some e =>
    act ((← get).call.complain ("write failure (" ++ e.reason ++ ")"))
    act (Action.exit 2)

/-! ### Variables -/

/-- What a name stands for. -/
def slot? (name : String) : Running (Option Slot) := do
  let m ← get
  match m.params.lookup name with
  | some s => return some s
  | none => return m.globals[name]?

/-- Lets a name stand for something. -/
def setSlot (name : String) (s : Slot) : Running Unit :=
  modify fun m =>
    if m.params.any (·.1 == name) then
      { m with params := m.params.map fun p => if p.1 == name then (name, s) else p }
    else { m with globals := m.globals.insert name s }

/-- The value of a variable that is not bound to the record. -/
def plainValue (name : String) : Running Value := do
  match ← slot? name with
  | some (.scalar v) => return v
  | _ => return .absent

/-- The text of a value as it is joined with others. -/
def textOf (v : Value) : Running String := do
  match v with
  | .number x =>
    match wholeText? x with
    | some s => return s
    | none =>
      let format ← plainValue "CONVFMT"
      return (Value.number x).toText (format.toText "%.6g")
  | v => return v.toText ""

/-- The text of a variable. -/
def variableText (name : String) : Running String := do
  textOf (← plainValue name)

/-- Complains, with the place in the input, and ends the program. -/
def fatal {α : Type} (text : String) : Running α := do
  let m ← get
  let file ← variableText "FILENAME"
  let inFile ← variableText "FNR"
  let inAll ← variableText "NR"
  act (m.call.note (m.call.name ++ ": run time error: " ++ text ++ "\n\tFILENAME=\"" ++ file ++
    "\" FNR=" ++ inFile ++ " NR=" ++ inAll ++ "\n"))
  quit 2

/-- The pattern of a text. -/
def patternOf (text : String) : Running Regex.Compiled := do
  match (← get).patterns[text]? with
  | some p => return p
  | none =>
    match Pattern.read text with
    | .ok p =>
      modify fun m => { m with patterns := m.patterns.insert text p }
      return p
    | .error e => fatal ("regular expression compile failed (" ++ e.message ++ ")\n" ++ text)

/-! ### Cutting -/

/-- How a text is cut. -/
inductive Separator where
  | blanks
  | each
  | pattern (p : Regex.Compiled)

/-- The separator of a text: a space stands for blanks, and another single character for itself. -/
def separatorOf (text : String) : Running Separator := do
  match text.toList with
  | [] => return .each
  | [' '] => return .blanks
  | [c] => return .pattern (Pattern.literal (String.singleton c))
  | _ => return .pattern (← patternOf text)

/-- The pieces of a text between blanks. -/
def betweenBlanks (text : String) : List String :=
  let (pieces, last) := text.foldl (fun (pieces, last) c =>
    if " \t\n".toList.contains c then (if last = "" then (pieces, "") else (last :: pieces, ""))
    else (pieces, last.push c)) (([] : List String), "")
  (if last = "" then pieces else last :: pieces).reverse

/-- The pieces of a text between matches that are not empty. -/
def betweenMatches (p : Regex.Compiled) (text : ByteArray) :
    Nat → Nat → Nat → List String → List String
  | 0, start, _, found => piece start text.size :: found
  | steps + 1, start, from_, found =>
    match (p.search? text from_ false).bind fun m => m.getD 0 none with
    | none => piece start text.size :: found
    | some (a, b) =>
      if a = b then
        if text.size ≤ a then piece start text.size :: found
        else betweenMatches p text steps start (a + 1) found
      else betweenMatches p text steps b b (piece start a :: found)
where
  /-- A part of the text. -/
  piece (a b : Nat) : String := octetsOfArray (text.extract a b)

/-- The pieces of a text. -/
def cutText (s : Separator) (text : String) : List String :=
  if text = "" then []
  else match s with
    | .blanks => betweenBlanks text
    | .each => text.toList.map String.singleton
    | .pattern p =>
      let bytes := arrayOfOctets text
      (betweenMatches p bytes (bytes.size + 1) 0 0 []).reverse

/-! ### The record -/

/-- Cuts the record into fields if that has not been done. -/
def cutRecord : Running Unit := do
  let m ← get
  if !m.isCut then
    let separator ← separatorOf (← variableText "FS")
    let pieces := cutText separator (m.record.toText "")
    modify fun m => { m with isCut := true, fields := (pieces.map Value.outside).toArray }

/-- Sets the record. -/
def setRecord (v : Value) : Running Unit :=
  modify fun m => { m with record := v, isCut := false, isStale := false }

/-- The record. -/
def record : Running Value := do
  let m ← get
  if m.isStale then
    let between ← variableText "OFS"
    let texts ← m.fields.toList.mapM textOf
    let record := Value.outside (between.intercalate texts)
    modify fun m => { m with record, isStale := false }
    return record
  else return m.record

/-- A field. -/
def field (i : Nat) : Running Value := do
  if i = 0 then record
  else
    cutRecord
    return (← get).fields.getD (i - 1) .absent

/-- Sets a field. -/
def setField (i : Nat) (v : Value) : Running Unit := do
  if i = 0 then setRecord (.outside (← textOf v))
  else
    cutRecord
    modify fun m =>
      let missing := i - m.fields.size
      let fields := m.fields ++ Array.replicate missing (.text "")
      { m with fields := fields.setIfInBounds (i - 1) v, isStale := true }

/-- Sets the number of fields. -/
def setFieldCount (n : Nat) : Running Unit := do
  cutRecord
  modify fun m =>
    let fields := m.fields.extract 0 n
    { m with
      fields := fields ++ Array.replicate (n - fields.size) (.text "")
      isStale := true }

/-- The value of a variable. -/
def value (name : String) : Running Value := do
  if name = "NF" && !(← get).params.any (·.1 == name) then
    cutRecord
    return .ofInt (← get).fields.size
  else plainValue name

/-- Sets a variable. -/
def setValue (name : String) (v : Value) : Running Unit := do
  if (← get).params.any (·.1 == name) then setSlot name (.scalar v)
  else if name = "NF" then setFieldCount (indexOf v.toNumber).toNat
  else
    if name = "FS" then cutRecord
    setSlot name (.scalar v)

/-! ### Arrays -/

/-- The number of the array of a name, which is made if there is none. -/
def arrayOf (name : String) : Running Nat := do
  match ← slot? name with
  | some (.array id) => return id
  | _ =>
    let id := (← get).tableCount
    modify fun m => { m with tableCount := id + 1, tables := m.tables.insert id {} }
    setSlot name (.array id)
    return id

/-- Does something with an array. -/
def withTable {α : Type} (id : Nat) (f : Table → Table × α) : Running α :=
  modifyGet fun m =>
    let t := m.tables.getD id {}
    let m := { m with tables := m.tables.erase id }
    let (t, a) := f t
    (a, { m with tables := m.tables.insert id t })

/-- The key of a value. -/
def keyOf (v : Value) : Running Key := do
  match v with
  | .number x =>
    match wholePart? x with
    | some (n, true) => if n.natAbs < 2147483648 then return .number n else return .text (← textOf v)
    | _ => return .text (← textOf v)
  | v => return .text (v.toText "")

/-! ### Commands -/

/-- What a child does to become a command of the shell. -/
def becomeCommand (c : Call) (command : String) : Action Nat := do
  discard (becomeProgram ["/bin/sh", "-c", command] c.env)
  return 127

/-- Runs a command; gives its status. -/
def runCommand (command : String) : Running Int := do
  flushAll
  let c := (← get).call
  let id ← act (Action.fork (becomeCommand c command))
  return statusOf (← act (awaitChild id maxSteps))

/-- Starts a command that is read from. -/
def startIntake (command : String) : Running Intake := do
  flushAll
  let c := (← get).call
  let (source, target) ← ask .pipe
  let id ← act (Action.fork do
    discard (Action.ask (.replace target 1))
    discard (Action.ask (.close source))
    discard (Action.ask (.close target))
    becomeCommand c command)
  discard (ask (.close target))
  return { name := command, isCommand := true, source := { number := source }, child? := some id }

/-- Starts a command that is written to. -/
def startSink (command : String) : Running Sink := do
  flushAll
  let c := (← get).call
  let (source, target) ← ask .pipe
  let others := (← get).sinks.map (·.number)
  let id ← act (Action.fork do
    discard (Action.ask (.replace source 0))
    discard (Action.ask (.close source))
    discard (Action.ask (.close target))
    for n in others do
      if n ≠ 2 then discard (Action.ask (.close n))
    becomeCommand c command)
  discard (ask (.close source))
  return { name := command, isCommand := true, number := target, child? := some id }

/-! ### Output -/

/-- Writes to the output. -/
def put (text : String) : Running Unit := do
  let output ← act ((← get).output.put text)
  modify fun m => { m with output }

/-- Writes to a sink that is open. -/
def putTo (name : String) (isCommand : Bool) (text : String) : Running Unit := do
  let sinks ← (← get).sinks.mapM fun s => do
    if s.name == name && s.isCommand == isCommand then
      let s := { s with text := s.text ++ text }
      if s.number = 2 || Gathered.limit ≤ s.text.utf8ByteSize then flushSink s else return s
    else return s
  modify fun m => { m with sinks }

/-- Writes to a file or command, which is opened if it is not open. -/
def putInto (name : String) (isCommand appends : Bool) (text : String) : Running Unit := do
  if !isCommand && (name = "/dev/stdout" || name = "-") then put text
  else
    if !(← get).sinks.any fun s => s.name == name && s.isCommand == isCommand then
      let sink ← if isCommand then startSink name
        else if name = "/dev/stderr" then
          pure { name, isCommand, number := 2 }
        else do
          match ← ask (.open name
              { write := true, create := true, append := appends, truncate := !appends }) with
          | .ok number => pure { name, isCommand, number }
          | .error e =>
            let m ← get
            act (m.call.complain ("cannot open \"" ++ name ++ "\" for output (" ++ e.reason ++ ")"))
            quit 2
      modify fun m => { m with sinks := m.sinks ++ [sink] }
    putTo name isCommand text

/-! ### Records -/

/-- How records end. -/
inductive RecordEnd where
  | char (c : Char)
  /-- At empty lines. -/
  | paragraph
  | pattern (p : Regex.Compiled)

/-- How records end now. -/
def recordEnd : Running RecordEnd := do
  match (← variableText "RS").toList with
  | [] => return .paragraph
  | [c] => return .char c
  | cs => return .pattern (← patternOf (String.ofList cs))

/-- Where an octet stands next, from a position on. -/
def nextOctet (bytes : ByteArray) (b : UInt8) : Nat → Nat → Option Nat
  | 0, _ => none
  | steps + 1, i =>
    if bytes.size ≤ i then none else if bytes.get! i = b then some i else nextOctet bytes b steps (i + 1)

/-- Goes on over line ends. -/
def skipNewlines (bytes : ByteArray) : Nat → Nat → Nat
  | 0, i => i
  | steps + 1, i =>
    if i < bytes.size && bytes.get! i = 0x0a then skipNewlines bytes steps (i + 1) else i

/-- Where an empty line starts, from a position on. -/
def nextEmptyLine (bytes : ByteArray) : Nat → Nat → Option Nat
  | 0, _ => none
  | steps + 1, i =>
    match nextOctet bytes 0x0a (bytes.size + 1) i with
    | none => none
    | some j =>
      if j + 1 < bytes.size && bytes.get! (j + 1) = 0x0a then some j
      else nextEmptyLine bytes steps (j + 1)

/-- The first record of what has been read, from where to where, and where the next one starts;
nothing if more has to be read. -/
def firstRecord? (e : RecordEnd) (s : Source) : Option (Nat × Nat × Nat) :=
  let size := s.bytes.size
  match e with
  | .char c =>
    match nextOctet s.bytes (UInt8.ofNat c.toNat) (size + 1) s.start with
    | some i => some (s.start, i, i + 1)
    | none => if s.hasEnded then some (s.start, size, size) else none
  | .paragraph =>
    let start := skipNewlines s.bytes (size + 1) s.start
    match nextEmptyLine s.bytes (size + 1) start with
    | some i =>
      let next := skipNewlines s.bytes (size + 1) i
      if next < size || s.hasEnded then some (start, i, next) else none
    | none =>
      if s.hasEnded then
        let stop := if start < size && s.bytes.get! (size - 1) = 0x0a then size - 1 else size
        some (start, stop, size)
      else none
  | .pattern p =>
    match (p.search? s.bytes s.start false).bind fun m => m.getD 0 none with
    | some (a, b) => if a < b && (b < size || s.hasEnded) then some (s.start, a, b)
        else if s.hasEnded then some (s.start, size, size) else none
    | none => if s.hasEnded then some (s.start, size, size) else none

/-- Reads on until there is a record, or the end. -/
def nextRecordWithin (e : RecordEnd) : Nat → Source → Running (Except FileError (Option String × Source))
  | 0, s => return .ok (none, s)
  | steps + 1, s => do
    match firstRecord? e s with
    | some (a, b, next) =>
      if s.hasEnded && s.bytes.size ≤ a then return .ok (none, { s with start := s.bytes.size })
      else return .ok (some (octetsOfArray (s.bytes.extract a b)), { s with start := next })
    | none =>
      match ← act (readPiece s.number) with
      | .error e => return .error e
      | .ok bytes =>
        let kept := s.bytes.extract s.start s.bytes.size
        nextRecordWithin e steps { s with
          bytes := kept ++ bytes, start := 0, hasEnded := bytes.size = 0 }

/-- The next record of a source. -/
def nextRecord (s : Source) : Running (Option String × Source) := do
  match ← nextRecordWithin (← recordEnd) maxSteps s with
  | .ok found => return found
  | .error e =>
    let m ← get
    act (m.call.complain ("read error (" ++ e.reason ++ ")"))
    quit 2

/-! ### The input -/

/-- The name and the value of an argument that sets a variable. -/
def settingOf? (text : String) : Option (String × String) :=
  let cs := text.toList
  let name := cs.takeWhile fun c => Lexeme.isNameStart c || c.isDigit
  match name, cs.drop name.length with
  | c :: _, '=' :: value =>
    if c.isDigit then none else some (String.ofList name, String.ofList value)
  | _, _ => none

/-- A text with its escapes replaced. -/
def unescaped : Nat → List Char → List Char
  | 0, cs => cs
  | steps + 1, cs =>
    match cs with
    | [] => []
    | '\\' :: c :: rest =>
      let (found, rest) := Lexeme.readQuoted.escape c rest
      found ++ unescaped steps rest
    | c :: rest => c :: unescaped steps rest

/-- Sets a variable as an argument says. -/
def applySetting (name text : String) : Running Unit :=
  setValue name (.outside (String.ofList (unescaped (text.length + 1) text.toList)))

/-- Opens the next file of the input; gives nothing if there is none. -/
def openNext : Nat → Running (Option Source)
  | 0 => return none
  | steps + 1 => do
    let m ← get
    let count := (indexOf (← plainValue "ARGC").toNumber).toNat
    if count ≤ m.argument then
      if m.hasFile then return none
      else
        modify fun m => { m with hasFile := true }
        return some { number := 0 }
    else
      modify fun m => { m with argument := m.argument + 1 }
      let id ← arrayOf "ARGV"
      let argument ← withTable id fun t =>
        let (t, isThere) := t.has (.number m.argument)
        if isThere then t.get (.number m.argument) else (t, .absent)
      let text ← textOf argument
      if text = "" then openNext steps
      else match settingOf? text with
        | some (name, value) =>
          applySetting name value
          openNext steps
        | none =>
          modify fun m => { m with hasFile := true }
          setValue "FILENAME" (.text text)
          setValue "FNR" (.number 0.0)
          if text = "-" || text = "/dev/stdin" then return some { number := 0 }
          else match ← ask (.open text { read := true }) with
            | .ok number => return some { number }
            | .error e =>
              act (m.call.complain ("cannot open \"" ++ text ++ "\" (" ++ e.reason ++ ")"))
              quit 2

/-- Closes the file of the input that is open. -/
def closeInput : Running Unit := do
  match (← get).input? with
  | some s =>
    if s.number ≠ 0 then discard (ask (.close s.number))
    modify fun m => { m with input? := none }
  | none => return ()

/-- Adds one to a variable. -/
def countUp (name : String) : Running Unit := do
  setValue name (.number ((← plainValue name).toNumber + 1.0))

/-- The next record of the input. -/
def nextOfInput : Nat → Running (Option String)
  | 0 => return none
  | steps + 1 => do
    let m ← get
    if m.hasEnded then return none
    match m.input? with
    | none =>
      match ← openNext 1000000 with
      | none =>
        modify fun m => { m with hasEnded := true }
        return none
      | some s =>
        modify fun m => { m with input? := some s }
        nextOfInput steps
    | some s =>
      let (found?, s) ← nextRecord s
      modify fun m => { m with input? := some s }
      match found? with
      | some text =>
        countUp "NR"
        countUp "FNR"
        return some text
      | none =>
        closeInput
        nextOfInput steps

/-- The next record of a file or command, which is opened if it is not open; a failure is told from
the end. -/
def nextOfIntake (name : String) (isCommand : Bool) : Running (Except Unit (Option String)) := do
  let isIt (i : Intake) : Bool := i.name == name && i.isCommand == isCommand
  if !(← get).intakes.any isIt then
    let intake? ← if isCommand then pure (some (← startIntake name))
      else if name = "-" || name = "/dev/stdin" then
        pure (some { name, isCommand, source := { number := 0 } })
      else do
        match ← ask (.open name { read := true }) with
        | .ok number => pure (some { name, isCommand, source := { number } })
        | .error _ => pure none
    match intake? with
    | none => return .error ()
    | some i => modify fun m => { m with intakes := i :: m.intakes }
  match (← get).intakes.find? isIt with
  | none => return .error ()
  | some i =>
    let (found?, source) ← nextRecord i.source
    modify fun m => { m with
      intakes := m.intakes.map fun j => if isIt j then { j with source } else j }
    return .ok found?

/-- Closes all files and commands of a name; gives the status of the last one. -/
def closeNamed (name : String) : Running Int := do
  let m ← get
  let sinks := m.sinks.filter (·.name == name)
  let intakes := m.intakes.filter (·.name == name)
  modify fun m => { m with
    sinks := m.sinks.filter (·.name != name), intakes := m.intakes.filter (·.name != name) }
  let fromSinks ← sinks.mapM closeSink
  let fromIntakes ← intakes.mapM closeIntake
  return (fromSinks ++ fromIntakes).getLast?.getD (-1)

end Running

end LuaBundler.Utility.Records
