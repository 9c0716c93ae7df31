import LuaBundler.System.Loader
import LuaBundler.System.Process
import LuaBundler.Utility.Real
import LuaBundler.Utility.Options

/-!
# Utilities: running programs

Running programs in other environments, with arguments from the input, or for a limited time; and
waiting and sending signals.
-/

namespace LuaBundler.Utility

open LuaBundler.Files LuaBundler.System LuaBundler.Text

/-! ### Becoming a program -/

/-- Becomes the program of a path; gives the failure if it cannot. -/
def launchPath (path : String) (args env : List String) : Action FileError := do
  match ← ask (.launch path args env) with
  | .ok _ => return .notFound
  | .error .execFormat =>
    match ← ask (.launch fallbackShell (fallbackArgs path args) env) with
    | .ok _ => return .notFound
    | .error e => return e
  | .error e => return e

/-- Becomes the first program among paths; gives the failure that counts if it cannot. -/
def launchAmong (args env : List String) (worst : FileError) : List String → Action FileError
  | [] => return worst
  | path :: paths => do
    let e ← launchPath path args env
    if isPassedOver e then launchAmong args env (worse worst e) paths else return e

/-- Becomes a program that is looked up as variables say; gives the failure if it cannot. -/
def becomeProgram (args env : List String) : Action FileError :=
  let name := args.headD ""
  let dirs : Option String := (env.find? fun e => e.startsWith "PATH=").map fun e =>
    String.ofList (e.toList.drop 5)
  if name = "" then return .notFound else launchAmong args env .notFound (programPaths dirs name)

/-- The status of a utility that cannot run a program. -/
def launchStatus (e : FileError) : Nat :=
  if e = .notFound then 127 else 126

/-- Becomes a program, or complains. -/
def becomeOr (c : Call) (args env : List String) : Action Nat := do
  let e ← becomeProgram args env
  c.fail (launchStatus e) (cited (args.headD "") ++ ": " ++ e.reason)

/-- The status of a process that has ended. -/
def endedStatus (e : Ended) : Nat :=
  match e.signal? with
  | some n => 128 + n
  | none => e.code

/-- Waits for the end of a child. -/
def awaitChild (process : Nat) : Nat → Action (Option Ended)
  | 0 => return none
  | steps + 1 => do
    match ← ask (.wait (some process) true) with
    | .ok (some e) => return some e
    | .ok none => awaitChild process steps
    | .error .interrupted => awaitChild process steps
    | .error _ => return none

/-- Runs a program in a child. -/
def runProgram (c : Call) (args env : List String) (input? : Option String) :
    Action (Option Ended) := do
  let id ← Action.fork do
    match input? with
    | some path =>
      discard (ask (.close 0))
      discard (ask (.open path { read := true }))
    | none => pure ()
    let e ← becomeProgram args env
    c.fail (launchStatus e) (shown (args.headD "") ++ ": " ++ e.reason)
  awaitChild id maxSteps

/-! ### Environments -/

/-- Whether a word sets a variable. -/
def isSetting (word : String) : Bool :=
  word.toList.contains '='

/-- The name that a word sets. -/
def settingName (word : String) : String :=
  String.ofList (word.toList.takeWhile (· ≠ '='))

/-- An environment without a variable. -/
def unsetIn (env : List String) (name : String) : List String :=
  env.filter fun e => settingName e != name

/-- An environment with a variable set. -/
def setIn (env : List String) (word : String) : List String :=
  let name := settingName word
  if env.any fun e => settingName e == name then
    env.map fun e => if settingName e = name then word else e
  else env ++ [word]

/-- The words of a text, in which quotes and backslashes keep what they enclose. -/
def splitWords : Nat → Option Char → List Char → Option (List Char) → Except String (List String)
  | 0, _, _, _ => .ok []
  | _ + 1, some _, [], _ => .error "no terminating quote in -S string"
  | _ + 1, none, [], word? => .ok (word?.toList.map String.ofList)
  | steps + 1, quote?, c :: cs, word? =>
    let word := word?.getD []
    let keep (d : Char) (rest : List Char) := splitWords steps quote? rest (some (word ++ [d]))
    match quote? with
    | some q =>
      if c = q then splitWords steps none cs (some word)
      else if c = '\\' then
        match cs with
        | d :: rest =>
          if d = '\\' ∨ d = q ∨ q = '"' ∧ d = '$' then keep d rest
          else if q = '\'' then keep '\\' (d :: rest) else escaped steps keep cs
        | [] => keep '\\' []
      else keep c cs
    | none =>
      if c = '\'' ∨ c = '"' then splitWords steps (some c) cs (some word)
      else if c = '#' ∧ word?.isNone then .ok []
      else if c = ' ' ∨ (9 ≤ c.toNat ∧ c.toNat ≤ 13) then do
        let rest ← splitWords steps none cs none
        return word?.toList.map String.ofList ++ rest
      else if c = '\\' then
        match cs with
        | '_' :: rest => do
          let rest ← splitWords steps none rest none
          return word?.toList.map String.ofList ++ rest
        | 'c' :: _ => .ok (word?.toList.map String.ofList)
        | _ => escaped steps keep cs
      else keep c cs
where
  /-- The character that follows a backslash. -/
  escaped (_ : Nat) (keep : Char → List Char → Except String (List String)) :
      List Char → Except String (List String)
    | 'f' :: rest => keep '\x0c' rest
    | 'n' :: rest => keep '\n' rest
    | 'r' :: rest => keep '\r' rest
    | 't' :: rest => keep '\t' rest
    | 'v' :: rest => keep '\x0b' rest
    | '_' :: rest => keep ' ' rest
    | [] => .error "invalid backslash at end of string in -S"
    | d :: rest =>
      if "#$\\\"'".toList.contains d then keep d rest
      else .error ("invalid sequence '\\" ++ String.singleton d ++ "' in -S")

/-- The arguments of `env` with a text of words taken apart. -/
def envArgs (args : List String) : Except String (List String) :=
  match args with
  | first :: rest =>
    match first.toList with
    | '-' :: 'v' :: 'S' :: cs | '-' :: 'S' :: cs => do
      let (text, rest) := if cs = [] then (rest.headD "", rest.drop 1) else (String.ofList cs, rest)
      return (← splitWords (text.length + 2) none text.toList none) ++ rest
    | _ =>
      if first.startsWith "--split-string=" then do
        let text := String.ofList (first.toList.drop 15)
        return (← splitWords (text.length + 2) none text.toList none) ++ rest
      else .ok args
  | [] => .ok args

/-- Runs a program in another environment, or shows that. -/
def env : Program := fun c =>
  match envArgs c.args with
  | .error reason => c.fail 125 reason
  | .ok args =>
    let args := args.map fun a => if a = "-" then "-i" else a
    { c with args }.withWords [⟨"i", ["ignore-environment"], .plain⟩, ⟨"0", ["null"], .plain⟩,
      ⟨"u", ["unset"], .required⟩, ⟨"C", ["chdir"], .required⟩,
      ⟨"v", ["debug"], .plain⟩] (fun w => do
      let start := if w.has "i" then [] else c.env
      let removed := w.options.filterMap fun (o : String × String) => if o.1 = "u" then some o.2 else none
      let vars := removed.foldl unsetIn start
      let settings := w.operands.takeWhile isSetting
      let vars := settings.foldl setIn vars
      match w.operands.drop settings.length with
      | [] => c.finish ("".intercalate (vars.map (· ++ (if w.has "0" then "\x00" else "\n")))) 0 125
      | command =>
        let run : Action Nat := do
          let status ← becomeOr c command vars
          if status = 127 && (command.headD "").toList.any fun c => c = ' ' || c = '\t' || c = '\n' then
            c.complain "use -[v]S to pass options in shebang lines"
          return status
        match w.get? "C" with
        | some dir =>
          match ← ask (.enterDir dir) with
          | .ok _ => run
          | .error e =>
            c.fail 125 ("cannot change directory to " ++ quoted dir ++ ": " ++ e.reason)
        | none => run) 125 true

/-! ### Arguments from the input -/

/-- How `xargs` takes words from its input. -/
inductive Separation where
  | blanks
  | lines
  | char (c : Char)

/-- The words of a text between blanks, in which quotes and backslashes keep what they enclose; each
with whether a line ends after it. -/
def blankWords : Nat → Option Char → List Char → Option (List Char) →
    Except String (List (String × Bool))
  | 0, _, _, _ => .ok []
  | _ + 1, some q, [], _ =>
    .error ("unmatched " ++ (if q = '"' then "double" else "single") ++
      " quote; by default quotes are special to xargs unless you use the -0 option")
  | _ + 1, none, [], word? => .ok (word?.toList.map fun w => (String.ofList w, true))
  | steps + 1, some q, c :: cs, word? =>
    if c = q then blankWords steps none cs (some (word?.getD []))
    else if c = '\n' then
      .error ("unmatched " ++ (if q = '"' then "double" else "single") ++
        " quote; by default quotes are special to xargs unless you use the -0 option")
    else blankWords steps (some q) cs (some (word?.getD [] ++ [c]))
  | steps + 1, none, c :: cs, word? =>
    if c = '\'' ∨ c = '"' then blankWords steps (some c) cs (some (word?.getD []))
    else if c = '\\' then
      match cs with
      | d :: rest => blankWords steps none rest (some (word?.getD [] ++ [d]))
      | [] => blankWords steps none [] word?
    else if c = '\n' ∨ c = ' ' ∨ c = '\t' then do
      let rest ← blankWords steps none cs none
      return (word?.toList.map fun w => (String.ofList w, c == '\n')) ++ rest
    else blankWords steps none cs (some (word?.getD [] ++ [c]))

/-- The words of the input. -/
def inputWords (how : Separation) (text : String) : Except String (List (String × Bool)) :=
  match how with
  | .blanks => blankWords (text.length + 2) none text.toList none
  | .char c => .ok ((linesOf c text).map (·, true))
  | .lines => do
    let lines := (linesOf '\n' text).map fun l =>
      String.ofList (l.toList.dropWhile fun c => c = ' ' || c = '\t')
    let lines := lines.filter (· ≠ "")
    let words ← lines.mapM fun l => blankWords (l.length + 2) none (l.toList.flatMap fun c =>
      if c = ' ' || c = '\t' then ['\\', c] else [c]) none
    return words.map fun ws => ("".intercalate (ws.map (·.1)), true)

/-- Words in groups of so many. -/
def groupsOf {α : Type} (size : Nat) : Nat → List α → List (List α)
  | 0, _ => []
  | fuel + 1, ws => if ws.isEmpty then [] else ws.take size :: groupsOf size fuel (ws.drop size)

/-- Words in groups of so many lines. -/
def lineGroups (size : Nat) (ws : List (String × Bool)) : List (List String) :=
  let (groups, group, _) := ws.foldl (fun (groups, group, lines) w =>
    let group := group ++ [w.1]
    let lines := if w.2 then lines + 1 else lines
    if size ≤ lines then (groups ++ [group], [], 0) else (groups, group, lines))
    (([] : List (List String)), ([] : List String), 0)
  if group = [] then groups else groups ++ [group]

/-- A text with every occurrence of another one replaced. -/
def replaceAll (mark new : List Char) : Nat → List Char → List Char
  | 0, cs => cs
  | _ + 1, [] => []
  | fuel + 1, c :: cs =>
    if mark ≠ [] ∧ mark.isPrefixOf (c :: cs) then
      new ++ replaceAll mark new fuel ((c :: cs).drop mark.length)
    else c :: replaceAll mark new fuel cs

/-- Groups of arguments that fit into so many characters together with a command. -/
def fitGroups (room : Nat) (ws : List String) : List (List String) :=
  let (groups, group, _) := ws.foldl (fun (groups, group, used) w =>
    if group ≠ [] ∧ room < used + w.length + 1 then (groups ++ [group], [w], w.length + 1)
    else (groups, group ++ [w], used + w.length + 1))
    (([] : List (List String)), ([] : List String), 0)
  if group = [] then groups else groups ++ [group]

/-- Runs commands one after the other, as long as they can be run. -/
def runCommands (c : Call) (isVerbose : Bool) (status : Nat) : List (List String) → Action Nat
  | [] => return status
  | args :: rest => do
    if isVerbose then c.note (" ".intercalate (args.map shown) ++ "\n")
    match ← runProgram c args c.env (some "/dev/null") with
    | none => return 1
    | some e =>
      match e.signal? with
      | some n => c.fail 125 (args.headD "" ++ ": terminated by signal " ++ decimal n)
      | none =>
        if e.code = 255 then
          c.fail 124 (args.headD "" ++ ": exited with status 255; aborting")
        else if e.code = 126 ∨ e.code = 127 then return e.code
        else runCommands c isVerbose (if e.code = 0 then status else 123) rest

/-- The character of the argument of an option. -/
def separatorOf (text : String) : Char :=
  match text.toList with
  | ['\\', 'n'] => '\n'
  | ['\\', 't'] => '\t'
  | ['\\', '0'] => '\x00'
  | c :: _ => c
  | [] => '\n'

/-- Runs a program with arguments from the input. -/
def xargs : Program := fun c =>
  c.withWords [⟨"0", ["null"], .plain⟩, ⟨"a", ["arg-file"], .required⟩,
    ⟨"d", ["delimiter"], .required⟩, ⟨"I", ["replace"], .required⟩, ⟨"i", [], .possible⟩,
    ⟨"L", ["max-lines"], .required⟩, ⟨"n", ["max-args"], .required⟩,
    ⟨"P", ["max-procs"], .required⟩, ⟨"r", ["no-run-if-empty"], .plain⟩,
    ⟨"s", ["max-chars"], .required⟩, ⟨"t", ["verbose"], .plain⟩, ⟨"x", ["exit"], .plain⟩] (fun w => do
    let command := if w.operands.isEmpty then ["echo"] else w.operands
    let mark? := (w.get? "I").orElse fun _ => (w.get? "i").map fun t => if t = "" then "\x7b\x7d" else t
    let how : Separation :=
      if w.has "0" then .char '\x00'
      else match w.get? "d" with
        | some text => .char (separatorOf text)
        | none => if mark?.isSome then .lines else .blanks
    let path := (w.get? "a").getD "-"
    match ← readFile path with
    | .error e => c.fail 1 ("Cannot open input file " ++ cited path ++ ": " ++ e.reason)
    | .ok text =>
      match inputWords how text with
      | .error reason => c.fail 1 reason
      | .ok words =>
        let plain := words.map (·.1)
        let number? (key : String) : Option Nat := (w.get? key).bind natural?
        let commands := match mark?, number? "L", number? "n" with
          | some mark, _, _ => plain.map fun word => command.map fun a =>
              String.ofList (replaceAll mark.toList word.toList (a.length + 1) a.toList)
          | none, some size, _ => (lineGroups (max 1 size) words).map (command ++ ·)
          | none, none, some size =>
            (groupsOf (max 1 size) (plain.length + 1) plain).map (command ++ ·)
          | none, none, none =>
            (fitGroups ((number? "s").getD 131072) plain).map (command ++ ·)
        let commands := if commands.isEmpty && !w.has "r" && mark?.isNone then [command] else commands
        runCommands c (w.has "t") 0 commands) 1 true

/-! ### Time -/

/-- A time in microseconds that a number with a unit spells. -/
def timeOf? (text : String) : Option Nat := do
  let cs := text.toList
  let (number, factor) := match cs.getLast? with
    | some 's' => (cs.dropLast, 1)
    | some 'm' => (cs.dropLast, 60)
    | some 'h' => (cs.dropLast, 3600)
    | some 'd' => (cs.dropLast, 86400)
    | _ => (cs, 1)
  if number.head? = some ' ' then none
  else match ← RealNumber.read? 53 number with
    | (.infinite false, []) => return Nat.pow 10 18 * factor
    | (.finite false m e, []) =>
      return (if 0 ≤ e then m * Nat.pow 2 e.toNat * 1000000 else m * 1000000 / Nat.pow 2 (-e).toNat) * factor
    | (.finite true 0 _, []) => return 0
    | _ => none

/-- Complains of arguments that are no times. -/
def complainTimes (c : Call) : List String → Action Nat
  | [] => do
    c.note ("Try '" ++ c.name ++ " --help' for more information.\n")
    return 1
  | text :: rest => do
    if (timeOf? text).isNone then c.complain ("invalid time interval " ++ cited text)
    complainTimes c rest

/-- Waits for a time. -/
def sleep : Program := fun c =>
  c.withWords [] fun w => do
    if w.operands.isEmpty then c.misused 1 "missing operand"
    else match w.operands.mapM timeOf? with
      | none => complainTimes c w.operands
      | some times =>
        ask (.sleep (times.foldl (· + ·) 0))
        return 0

/-- The signal that a text names. -/
def signalOf? (text : String) : Option Nat :=
  match natural? text with
  | some n => if n ≤ 64 then some n else none
  | none =>
    let upper := text.toUpper
    let name := if upper.startsWith "SIG" then String.ofList (upper.toList.drop 3) else upper
    if name = "EXIT" then some 0 else signalNumber? name

/-- Waits for a child until it has to be told to end, and again until it is killed. -/
def awaitLimited (c : Call) (w : Words) (id signal : Nat) (kill? : Option Nat) (deadline : Nat) :
    Action Nat := do
  match ← ask (.waitUntil id deadline) with
  | .ok (some e) =>
    return endedStatus e
  | .ok none =>
    if w.has "v" then
      c.complain ("sending signal " ++ signalText signal ++ " to command " ++
        cited (w.operands.getD 1 ""))
    discard (ask (.send id signal))
    ask (.react signal .ignore)
    if !w.has "foreground" then discard (ask (.send 0 signal))
    discard (ask (.send id sigcont))
    let last ← match kill? with
      | none => awaitChild id maxSteps
      | some time =>
        let now : Nat ← ask .now
        match ← ask (.waitUntil id (now + time)) with
        | .ok (some e) => pure (some e)
        | _ =>
          discard (ask (.send id sigkill))
          awaitChild id maxSteps
    match last with
    | some e =>
      return if e.signal? = some sigkill then 137
        else if w.has "preserve-status" then endedStatus e else 124
    | none => return 124
  | .error _ => return 125
where
  /-- The name of a signal. -/
  signalText (signal : Nat) : String :=
    if signal = 0 then "0" else Process.signalNames.getD (signal - 1) (decimal signal)

/-- Runs a program for a limited time. -/
def timeout : Program := fun c =>
  c.withWords [⟨"k", ["kill-after"], .required⟩, ⟨"s", ["signal"], .required⟩,
    ⟨"v", ["verbose"], .plain⟩, ⟨"foreground", ["foreground"], .plain⟩,
    ⟨"preserve-status", ["preserve-status"], .plain⟩] (fun w => do
    match w.operands with
    | [] | [_] => c.misused 125 "missing operand"
    | duration :: command =>
      match timeOf? duration, (w.get? "k").map timeOf?, (w.get? "s").map signalOf? with
      | none, _, _ => c.misused 125 ("invalid time interval " ++ cited duration)
      | _, some none, _ => c.misused 125 ("invalid time interval " ++ cited ((w.get? "k").getD ""))
      | _, _, some none =>
        c.misused 125 (cited ((w.get? "s").getD "") ++ ": invalid signal")
      | some time, kill?, signal? =>
        if !w.has "foreground" then ask .lead
        let id ← Action.fork do
          let e ← becomeProgram command c.env
          c.fail (launchStatus e) ("failed to run command " ++ cited (command.headD "") ++ ": " ++
            e.reason)
        let now : Nat ← ask .now
        if time = 0 then
          match ← awaitChild id maxSteps with
          | some e => return endedStatus e
          | none => return 125
        else awaitLimited c w id ((signal?.bind id').getD sigterm) (kill?.bind id') (now + time)) 125
    true
where
  /-- An optional value as it is. -/
  id' (n : Option Nat) : Option Nat := n

/-- Runs a program that a hangup does not end. -/
def nohup : Program := fun c =>
  c.withWords [] (fun w => do
    if w.operands.isEmpty then c.misused 125 "missing operand"
    else
      ask (.react 1 .ignore)
      becomeOr' c w.operands) 125 true
where
  /-- Becomes a program, or complains. -/
  becomeOr' (c : Call) (args : List String) : Action Nat := do
    let e ← becomeProgram args c.env
    c.fail (launchStatus e) ("failed to run command " ++ quoted (args.headD "") ++ ": " ++ e.reason)

/-- Runs a program with another priority, which has no effect. -/
def nice : Program := fun c =>
  c.withWords [⟨"n", ["adjustment"], .required⟩] (fun w =>
    if w.operands.isEmpty then c.finish "0\n" 0 else becomeOr c w.operands c.env) 125 true

/-- Runs a program in a group of processes of its own. -/
def setsid : Program := fun c =>
  c.withWords [⟨"f", ["fork"], .plain⟩, ⟨"w", ["wait"], .plain⟩, ⟨"c", ["ctty"], .plain⟩] (fun w => do
    if w.operands.isEmpty then c.misused 1 "no command specified"
    else
      let fail (e : FileError) : Action Nat :=
        c.fail (launchStatus e) ("failed to execute " ++ w.operands.headD "" ++ ": " ++ e.reason)
      if w.has "f" then
        let id ← Action.fork do
          ask .lead
          fail (← becomeProgram w.operands c.env)
        if w.has "w" then
          return ((← awaitChild id maxSteps).map endedStatus).getD 0
        else return 0
      else
        ask .lead
        fail (← becomeProgram w.operands c.env)) 1 true

/-! ### Signals -/

/-- Sends a signal to processes. -/
def sendAll (c : Call) (signal : Nat) (status : Nat) : List String → Action Nat
  | [] => return status
  | text :: rest => do
    match integer? text with
    | none =>
      c.complain ("failed to parse argument: " ++ quoted text)
      sendAll c signal 1 rest
    | some target =>
      match ← ask (.send target signal) with
      | .ok _ => sendAll c signal status rest
      | .error e =>
        c.complain ("(" ++ text ++ ") - " ++ e.reason)
        sendAll c signal 1 rest

/-- Sends signals, or lists them. -/
def kill : Program := fun c =>
  match c.args with
  | "-l" :: [] => c.finish (" ".intercalate Process.signalNames ++ "\n") 0
  | "-l" :: text :: _ =>
    match natural? text with
    | some n => c.finish (Process.signalNames.getD (n % 128 - 1) "" ++ "\n") 0
    | none => c.finish (((signalOf? text).elim "" decimal) ++ "\n") 0
  | "-s" :: name :: rest =>
    match signalOf? name with
    | some n => sendAll c n 0 rest
    | none => c.fail 1 ("unknown signal name " ++ name)
  | "--" :: rest => sendAll c sigterm 0 rest
  | first :: rest =>
    match first.toList with
    | '-' :: cs =>
      match signalOf? (String.ofList cs) with
      | some n => sendAll c n 0 rest
      | none => c.fail 1 ("unknown signal name " ++ String.ofList cs)
    | _ => sendAll c sigterm 0 c.args
  | [] => c.fail 1 "no process ID specified"

end LuaBundler.Utility
