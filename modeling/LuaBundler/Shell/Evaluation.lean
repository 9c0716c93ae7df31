import LuaBundler.Shell.Builtin.Commands
import LuaBundler.Shell.Builtin.Basic
import LuaBundler.Shell.Builtin.Files
import LuaBundler.Shell.Builtin.Jobs
import LuaBundler.Shell.Builtin.Print
import LuaBundler.Shell.Builtin.Test
import LuaBundler.Shell.Builtin.Variables
import LuaBundler.Shell.Redirection

/-!
# Running scripts

What the commands of a script do. A command may run other commands, texts and files in turn, so each
kind of command is described by an action that is given how to run what is in it (`Runner`);
`runWithin` ties them together, with a number that bounds how deeply one thing runs in another.

A command knows where it stands (`Place`): whether its status is being tested, so that it may fail,
and whether it is the last one of its process, so that a program can take the place of the process.
-/

namespace LuaBundler.Shell

open LuaBundler.Files LuaBundler.System LuaBundler.Text

/-! ### What is run -/

/-- Something that a shell runs. -/
inductive Code where
  | node (n : Node)
  | text (script : List Char)
  /-- The file that a number stands for. -/
  | file (number : Nat)

/-- Where something that is run stands. -/
structure Standing where
  /-- Whether it is tested, so that it may fail. -/
  isTested : Bool := false
  /-- Whether it is the last thing that the process does. -/
  isLast : Bool := false

/-- How something is run; the status is given. -/
abbrev Runner := Code → Standing → Sh Nat

namespace Evaluation

/-! ### Traps -/

/-- Runs the traps of signals, after which the status is what it was before. -/
def runTrapsOf (run : Runner) (status : Nat) : List Nat → Sh Unit
  | [] => pure ()
  | signal :: rest => do
    let s ← Sh.get
    if s.skip ≠ .none then Sh.set { s with caught := signal :: rest ++ s.caught }
    else
      match s.traps.lookup signal with
      | none => pure ()
      | some action =>
        discard (run (.text action.toList) {})
        if (← Sh.get).skip ≠ .leaveFunction true then Sh.setStatus status
      runTrapsOf run status rest

/-- Runs the traps of the signals that have arrived. -/
def runTraps (run : Runner) : Sh Unit := do
  Sh.noteSignals
  let s ← Sh.get
  if s.caught.isEmpty then pure ()
  else
    let status := s.savedStatus?.getD s.status
    Sh.set { s with caught := [], savedStatus? := some status }
    runTrapsOf run status (s.caught.mergeSort (· ≤ ·))
    Sh.modify fun now => { now with savedStatus? := s.savedStatus? }

/-- Whether any signal has a trap that does something. -/
def hasTraps (s : Shell) : Bool :=
  s.traps.any (·.2 != "")

/-! ### The end of a shell -/

/-- Gives up everything that is going on in a shell. -/
def settle (byExit : Bool) : Sh Unit := do
  Redirection.popTo 0 (← Sh.get).redirects.length
  Sh.modify fun s =>
    let status := match s.savedStatus? with
      | some status => if byExit || s.skip = .leaveFunction false then status else s.status
      | none => s.status
    { s with
      status, savedStatus? := none, skip := .none, loops := 0, functionDepth := 0, inTrace := false
      command? := none }

/-- Ends a shell, which may have something to do at its end. Gives its status. -/
def finish (run : Runner) (cause? : Option Leave) : Sh Nat := do
  let byExit := cause? = some .exit
  if cause?.isSome then settle byExit
  Sh.modify fun s => { s with savedStatus? := some s.status }
  match (← Sh.get).traps.lookup 0 with
  | none => settle byExit
  | some action =>
    Sh.modify fun s => { s with skip := .none, traps := s.traps.filter (·.1 != 0) }
    match ← Sh.attempt (run (.text action.toList) {}) with
    | .ok _ =>
      Sh.modify fun s => { s with skip := .leaveFunction false }
      settle byExit
    | .error l => settle (l = .exit)
  discard Sh.flush
  return (← Sh.get).status

/-- Does all that a process has to do. Gives its status. -/
def asProcess (run : Runner) (body : Sh Unit) : Sh Nat := do
  match ← Sh.attempt body with
  | .ok _ => finish run none
  | .error l => finish run (some l)

/-- Runs a command as the last thing of a process. -/
def runLast (run : Runner) (n : Node) (isTested : Bool) : Sh Unit :=
  discard (run (.node n) { isTested, isLast := true })

/-! ### Nested commands -/

/-- Reads all that comes from a number, NULs left out. -/
def readAll (number : Nat) : Nat → List ByteArray → Sh (List Char)
  | 0, pieces => return charsOf pieces
  | steps + 1, pieces => do
    match ← Sh.ask (.read number 65536) with
    | .ok bytes =>
      if bytes.size = 0 then return charsOf pieces else readAll number steps (bytes :: pieces)
    | .error .interrupted =>
      Sh.noteSignals
      readAll number steps pieces
    | .error _ => return charsOf pieces
where
  /-- The characters of pieces, the last piece first. -/
  charsOf (pieces : List ByteArray) : List Char :=
    pieces.foldl (fun cs p => (p.toList.filter (· ≠ 0)).map octet ++ cs) []

/-- Lets a number stand for what another one stood for. -/
def moveNumber (source target : Nat) : Sh Unit := do
  if source ≠ target then
    discard (Sh.ask (.replace source target))
    discard (Sh.ask (.close source))

/-- The output of a nested command. -/
def nested (run : Runner) : Substitution
  | none => return []
  | some n => do
    let (source, target) ← Sh.ask .pipe
    let number ← Sh.newJob
    Sh.spawn number .nested (asProcess run do
      discard (Sh.ask (.close source))
      moveNumber target 1
      runLast run n false)
    discard (Sh.ask (.close target))
    let output ← readAll source Sh.maxWrites []
    discard (Sh.ask (.close source))
    let status ← Sh.await number
    Sh.modify fun s => { s with nestedStatus := status }
    return output

/-! ### Loops -/

/-- What becomes of a loop after a round. -/
inductive Round where
  | goesOn
  | startsAnew
  | isLeft
  deriving DecidableEq

/-- Takes note that a round of a loop has ended. -/
def endRound : Sh Round := do
  let s ← Sh.get
  match s.skip with
  | .none => return .goesOn
  | .leaveLoops n =>
    Sh.set { s with skip := if n ≤ 1 then .none else .leaveLoops (n - 1) }
    return .isLeft
  | .nextRound n =>
    Sh.set { s with skip := if n ≤ 1 then .none else .nextRound (n - 1) }
    return if n ≤ 1 then .startsAnew else .isLeft
  | .leaveFunction _ => return .isLeft

/-- Does what a loop does. -/
def inLoop (body : Sh Nat) : Sh Nat := do
  Sh.modify fun s => { s with loops := s.loops + 1 }
  let status ← body
  Sh.modify fun s => { s with loops := s.loops - 1 }
  return status

/-- Runs commands for each of several values of a variable. -/
def runEach (run : Runner) (name : String) (body : Node) (place : Standing) (status : Nat) :
    List String → Sh Nat
  | [] => return status
  | value :: values => do
    Sh.assign name value
    let status ← run (.node body) place
    if (← endRound) = .isLeft then return status else runEach run name body place status values

/-- Runs commands as long as a test does not end them. -/
def runLoop (run : Runner) (untilTrue : Bool) (test body : Node) (place : Standing) :
    Nat → Nat → Sh Nat
  | 0, status => return status
  | steps + 1, status => do
    let tested ← run (.node test) { isTested := true }
    match ← endRound with
    | .isLeft => return if (← Sh.get).skip = .leaveFunction true then tested else status
    | .startsAnew => runLoop run untilTrue test body place steps status
    | .goesOn =>
      if (tested = 0) = untilTrue then return status
      else
        let status ← run (.node body) place
        if (← endRound) = .isLeft then return status
        else runLoop run untilTrue test body place steps status

/-! ### Cases -/

/-- Whether a text matches one of several words. -/
def matchesAny (sub : Substitution) (subject : List Char) : List Word → Sh Bool
  | [] => return false
  | w :: ws => do
    if Pattern.matches (← Expand.pattern sub w) subject then return true
    else matchesAny sub subject ws

/-- The commands of the first arm that a text matches. -/
def findArm (sub : Substitution) (subject : List Char) :
    List (List Word × Option Node) → Sh (Option Node)
  | [] => return none
  | (words, body) :: arms => do
    if ← matchesAny sub subject words then return body else findArm sub subject arms

/-! ### Children -/

/-- Runs a subshell. -/
def runSubshell (run : Runner) (isBackground : Bool) (line : Nat) (body : Node)
    (redirects : List Redirect) (place : Standing) : Sh Nat := do
  Sh.modify fun s => { s with line }
  let sub := nested run
  let ready ← Redirection.expand sub redirects
  let isTested := place.isTested && !isBackground
  if !isBackground && place.isLast && !hasTraps (← Sh.get) then
    Redirection.apply sub ready
    runLast run body isTested
    return 0
  else
    let number ← Sh.newJob
    Sh.spawn number (if isBackground then .background else .foreground) (asProcess run do
      Redirection.apply sub ready
      runLast run body isTested)
    if isBackground then return 0 else Sh.await number

/-- Starts the commands of a pipeline; `source?` is what the first one reads from. -/
def startPipeline (run : Runner) (job : Nat) (kind : ChildKind) (isTested : Bool) :
    Option Nat → List Node → Sh Unit
  | _, [] => pure ()
  | source?, n :: ns => do
    let pipe? : Option (Nat × Nat) ← do
      if ns.isEmpty then pure none else pure (some (← Sh.ask .pipe))
    Sh.spawn job kind (asProcess run do
      match pipe? with
      | some (source, _) => discard (Sh.ask (.close source))
      | none => pure ()
      match source? with
      | some source => moveNumber source 0
      | none => pure ()
      match pipe? with
      | some (_, target) => moveNumber target 1
      | none => pure ()
      runLast run n isTested)
    match source? with
    | some source => discard (Sh.ask (.close source))
    | none => pure ()
    match pipe? with
    | some (_, target) => discard (Sh.ask (.close target))
    | none => pure ()
    startPipeline run job kind isTested (pipe?.map (·.1)) ns

/-- Runs a pipeline. -/
def runPipeline (run : Runner) (commands : List Node) (isBackground : Bool) (place : Standing) :
    Sh Nat := do
  let number ← Sh.newJob
  startPipeline run number (if isBackground then .background else .foreground) place.isTested none
    commands
  if isBackground then return 0 else Sh.await number

/-! ### The head of a simple command -/

/-- The start of a simple command: fields that have been passed over, those that have been found,
and the words that are still to be expanded. -/
structure Head where
  passed : List String := []
  args : List String
  rest : List Word
  path? : Option String := none

/-- Expands words up to the first one that gives a field. -/
def firstFields (sub : Substitution) : List Word → Sh (List String × List Word)
  | [] => return ([], [])
  | w :: ws => do
    match ← Expand.fields sub w with
    | [] => firstFields sub ws
    | fs => return (fs, ws)

/-- Expands words until there is a field of an index, if there can be one. -/
def reach (sub : Substitution) (index : Nat) (h : Head) : Sh (Option String × Head) := do
  match h.args[index]? with
  | some arg => return (some arg, h)
  | none =>
    let (fs, rest) ← firstFields sub h.rest
    let h := { h with args := h.args ++ fs, rest }
    return (h.args[index]?, h)

/-- Passes over the name of the builtin that runs commands, and over its options. Gives whether a
command follows that is to be run. -/
def passCommand (sub : Substitution) : Nat → Nat → Head → Sh (Bool × Head)
  | 0, _, h => return (false, h)
  | steps + 1, index, h => do
    let stop (index : Nat) (h : Head) : Bool × Head :=
      (true, { h with passed := h.passed ++ h.args.take index, args := h.args.drop index })
    let (arg?, h) ← reach sub index h
    match arg? with
    | none => return (false, h)
    | some "--" => do
      let (next?, h) ← reach sub (index + 1) h
      return if next?.isSome then stop (index + 1) h else (false, h)
    | some arg =>
      match arg.toList with
      | '-' :: c :: cs =>
        if (c :: cs).all (· = 'p') then
          passCommand sub steps (index + 1) { h with path? := some safePath }
        else return (false, h)
      | _ => return stop index h

/-- What the head of a command has shown. -/
structure HeadInfo where
  head : Head
  found : Found
  withFunctions : Bool
  /-- Whether the first command is a builtin whose failures end scripts. -/
  isSpecial : Bool

/-- Finds out what a simple command runs, as far as that shows before it is looked for among the
programs. -/
def readHead (sub : Substitution) : Nat → Bool → Bool → Bool → Head → Sh HeadInfo
  | 0, withFunctions, isSpecial, _, head => return ⟨head, .unknown, withFunctions, isSpecial⟩
  | steps + 1, withFunctions, isSpecial, isFirst, head => do
    let name := head.args.head?.getD ""
    let s ← Sh.get
    let found : Found := match (if withFunctions then s.functions.lookup name else none) with
      | some body => .function body
      | none => if isBuiltin name then .builtin else .unknown
    match found with
    | .builtin =>
      let isSpecial := if isFirst then specialNames.contains name else isSpecial
      if name = "command" then
        match ← passCommand sub 1000000000 1 head with
        | (true, head) => readHead sub steps false isSpecial false head
        | (false, head) => return ⟨head, found, withFunctions, isSpecial⟩
      else return ⟨head, found, withFunctions, isSpecial⟩
    | _ => return ⟨head, found, withFunctions, isSpecial⟩

/-- Expands the remaining words. Of a command that takes assignments, those are not split. -/
def restFields (sub : Substitution) (takesAssignments : Bool) : List Word → Sh (List String)
  | [] => return []
  | w :: ws => do
    let fs ← if takesAssignments && w.isAssignment then pure [← Expand.text sub .value w]
      else Expand.fields sub w
    return fs ++ (← restFields sub takesAssignments ws)

/-! ### Assignments and traces -/

/-- Does the assignments before a command. -/
def assignAll (sub : Substitution) (isLocal isExported : Bool) : List Word → Sh (List String)
  | [] => return []
  | w :: ws => do
    let text ← Expand.text sub .value w
    match assignment? text.toList with
    | some (name, value) =>
      if isLocal then
        Sh.saveLocal name
        Sh.setVar name (some value) true
      else Sh.setVar name (some value) isExported
    | none => pure ()
    return text :: (← assignAll sub isLocal isExported ws)

/-- The number that traces are written to: the error stream before a command redirects it. -/
def traceNumber (s : Shell) : Nat :=
  match (s.redirects.head?.getD []).lookup 2 with
  | some (some copy) => copy
  | _ => 2

/-- Writes down a command before it is run. -/
def trace (sub : Substitution) (words : List String) : Sh Unit := do
  let s ← Sh.get
  if s.has "xtrace" && !s.inTrace then
    let prompt := (s.get? "PS4").getD ""
    Sh.modify fun s => { s with inTrace := true }
    let start ← match documentWord? prompt with
      | some w => Expand.document sub w
      | none => pure prompt
    Sh.modify fun s => { s with inTrace := false }
    discard (Sh.writeTo (traceNumber (← Sh.get)) (start ++ " ".intercalate words ++ "\n"))

/-! ### Functions and builtins -/

/-- How deeply functions may be nested. -/
def maxFunctionDepth : Nat := 1000

/-- Calls a function. -/
def callFunction (run : Runner) (body : Node) (args : List String) (place : Standing) : Sh Nat := do
  let s ← Sh.get
  if maxFunctionDepth ≤ s.functionDepth then
    Sh.fail ("Maximum function recursion depth (" ++ decimal maxFunctionDepth ++ ") reached")
  Sh.set { s with
    params := args, nextOption := 1, optionOffset := 0, loops := 0
    functionDepth := s.functionDepth + 1 }
  let result ← Sh.attempt (run (.node body) { isTested := place.isTested })
  Sh.modify fun now => { now with
    params := s.params, nextOption := s.nextOption, optionOffset := s.optionOffset
    loops := s.loops, functionDepth := s.functionDepth
    skip := match now.skip with
      | .leaveFunction _ => .none
      | skip => skip }
  match result with
  | .ok status => return status
  | .error l => Sh.leave l

/-- The paths that the file of a script may be at. -/
def scriptPaths (s : Shell) (name : String) : List String :=
  programPaths (some (searchPath s)) name

/-- Opens a file of commands under a number that programs do not inherit. -/
def openScript (path : String) : Sh Nat := do
  let number ← Redirection.openOr "open" "No such file" path { read := true }
  match ← Sh.ask (.duplicate number 10) with
  | .ok copy =>
    discard (Sh.ask (.close number))
    return copy
  | .error _ => return number

/-- Runs the commands of a file. -/
def runFile (run : Runner) (args : List String) : Sh Nat := do
  let (_, args) ← Builtin.options "" args
  match args with
  | [] => return 0
  | name :: _ =>
    let path ← do
      if '/' ∈ name.toList then pure name
      else
        let paths := scriptPaths (← Sh.get) name
        match ← findFile 0 .notFound paths with
        | .ok index => pure (paths.getD index name)
        | .error _ => Sh.fail (name ++ ": not found")
    let number ← openScript path
    Sh.modify fun s => { s with command? := some path }
    let result ← Sh.attempt (run (.file number) {})
    discard (Sh.ask (.close number))
    match result with
    | .ok status => return status
    | .error l => Sh.leave l

/-- Does what a builtin does. -/
def builtinAction (run : Runner) (name : String) (args : List String) (place : Standing) : Sh Nat :=
  match name with
  | ":" | "true" => return 0
  | "false" => return 1
  | "." => runFile run args
  | "[" | "test" => Builtin.test name args
  | "alias" => Builtin.defineAliases args
  | "bg" | "fg" => Builtin.resumeJob args
  | "break" => Builtin.leaveLoops .leaveLoops args
  | "cd" | "chdir" => Builtin.cd args
  | "command" => Builtin.command args
  | "continue" => Builtin.leaveLoops .nextRound args
  | "echo" => Builtin.echo args
  | "eval" =>
    if args.isEmpty then return 0
    else run (.text (" ".intercalate args).toList) { isTested := place.isTested }
  | "exec" => do
    let (_, args) ← Builtin.options "" args
    if args.isEmpty then return 0
    else becomeProgram (searchPath (← Sh.get)) 0 args
  | "exit" => Builtin.exit args
  | "export" => Builtin.mark "export" true args
  | "getopts" => Builtin.getopts args
  | "hash" => Builtin.hash args
  | "jobs" => Builtin.jobs args
  | "kill" => Builtin.kill args
  | "local" => Builtin.makeLocal args
  | "printf" => Builtin.printf args
  | "pwd" => Builtin.pwd args
  | "read" => Builtin.read args
  | "readonly" => Builtin.mark "readonly" false args
  | "return" => Builtin.leaveFunction args
  | "set" => Builtin.set args
  | "shift" => Builtin.shift args
  | "times" => Builtin.times
  | "trap" => Builtin.trap args
  | "type" => Builtin.type args
  | "ulimit" => Builtin.ulimit args
  | "umask" => Builtin.umask args
  | "unalias" => Builtin.unalias args
  | "unset" => Builtin.unset args
  | "wait" => Builtin.wait args
  | _ => do
    -- No command at all: the status is that of the last nested command.
    return (← Sh.get).nestedStatus

/-- Runs a builtin, or no command at all if there is no name. What it prints is written when it has
ended. -/
def runBuiltin (run : Runner) (args : List String) (place : Standing) : Sh (Except Leave Unit) := do
  let command? := (← Sh.get).command?
  Sh.modify fun s => { s with command? := args.head? }
  let name := args.head?.getD ""
  let result ← Sh.attempt do
    let status ← builtinAction run name (args.drop 1) place
    if ← Sh.flush then Sh.setStatus status
    else
      Sh.complain (name ++ ": I/O error")
      Sh.setStatus (status ||| 1)
  Sh.modify fun s => { s with command?, printed := "" }
  return result

/-! ### Simple commands -/

/-- Runs a program in a child, or in place of the shell if there is nothing left to do. -/
def runProgram (path : String) (index : Nat) (args : List String) (place : Standing) : Sh Nat := do
  if place.isLast && !hasTraps (← Sh.get) then becomeProgram path index args
  else
    let number ← Sh.newJob
    Sh.spawn number .foreground (becomeProgram path index args)
    Sh.await number

/-- Runs what a simple command has been found to be. -/
def runFound (run : Runner) (info : HeadInfo) (args : List String) (place : Standing) : Sh Nat := do
  let s ← Sh.get
  let path := info.head.path?.getD (searchPath s)
  let search : Search := { path, withFunctions := info.withFunctions, complains := true }
  let found ← match info.found with
    | .unknown => find search (args.head?.getD "")
    | found => pure found
  match found with
  | .unknown =>
    Sh.setStatus 127
    return 127
  | .path => runProgram path 0 args place
  | .program index => runProgram path index args place
  | .function body => callFunction run body (args.drop 1) place
  | .builtin =>
    match ← runBuiltin run args place with
    | .ok _ => return (← Sh.get).status
    | .error .error =>
      if info.isSpecial then Sh.leave .error else return (← Sh.get).status
    | .error l => Sh.leave l

/-- Runs a simple command. -/
def runSimple (run : Runner) (line : Nat) (assignments words : List Word) (redirects : List Redirect)
    (place : Standing) : Sh Nat := do
  let sub := nested run
  Sh.modify fun s => { s with line, nestedStatus := 0 }
  let (first, rest) ← firstFields sub words
  let info ← if first.isEmpty then pure ⟨⟨[], [], [], none⟩, .builtin, true, false⟩
    else readHead sub 1000000000 true false true ⟨[], first, rest, none⟩
  let isBuiltinNamed (names : List String) : Bool :=
    match info.found with
    | .builtin => names.contains (info.head.args.head?.getD "")
    | _ => false
  let args := info.head.args ++
    (← restFields sub (isBuiltinNamed assigningBuiltins) info.head.rest)
  let isExec := isBuiltinNamed ["exec"]
  let depth := (← Sh.get).locals.length
  let isLocal := !args.isEmpty && !info.isSpecial
  if isLocal then Sh.pushLocals
  let ready ← Redirection.expand sub redirects
  let redirectDepth := (← Sh.get).redirects.length
  let isOpen ← Redirection.push sub ready
  let status ← if !isOpen then do
      Sh.setStatus 2
      if info.isSpecial then Sh.leave .error
      pure 2
    else do
      let assigned ← assignAll sub isLocal (isExec && 1 < args.length) assignments
      trace sub (assigned ++ info.head.passed ++ args)
      runFound run info args place
  Redirection.pop isExec
  Redirection.popTo redirectDepth (← Sh.get).redirects.length
  Sh.popLocalsTo depth
  return status

/-! ### Commands -/

/-- Ends a script whose failures end it if a command has failed that nothing tests. -/
def endOnFailure (status : Nat) (place : Standing) : Sh Unit := do
  if status ≠ 0 && !place.isTested && (← Sh.has "errexit") then Sh.leave .finished

/-- Runs commands with redirections. -/
def runRedirected (run : Runner) (line : Nat) (body : Node) (redirects : List Redirect)
    (place : Standing) : Sh Nat := do
  let sub := nested run
  Sh.modify fun s => { s with line }
  let ready ← Redirection.expand sub redirects
  if ← Redirection.push sub ready then
    let status ← run (.node body) { isTested := place.isTested }
    Redirection.pop false
    return status
  else
    Redirection.pop false
    Sh.setStatus 2
    endOnFailure 2 place
    return 2

/-- Runs a function of another command, whose status becomes the status of the shell. -/
def withStatus (action : Sh Nat) : Sh (Option Nat) := do
  let status ← action
  Sh.setStatus status
  return some status

/-- Runs a command; gives the status unless it is what it was. -/
def runNode (run : Runner) (n : Node) (place : Standing) : Sh (Option Nat) := do
  let sub := nested run
  match n with
  | .simple line assignments words redirects =>
    withStatus (runSimple run line assignments words redirects place)
  | .pipeline commands isBackground => withStatus (runPipeline run commands isBackground place)
  | .redirected line body redirects => withStatus (runRedirected run line body redirects place)
  | .background line body redirects => withStatus (runSubshell run true line body redirects place)
  | .subshell line body redirects => withStatus (runSubshell run false line body redirects place)
  | .both first second =>
    let status ← run (.node first) { isTested := true }
    if status ≠ 0 ∨ (← Sh.get).skip ≠ .none then return none
    else withStatus (run (.node second) place)
  | .either first second =>
    let status ← run (.node first) { isTested := true }
    if status = 0 ∨ (← Sh.get).skip ≠ .none then return none
    else withStatus (run (.node second) place)
  | .sequence first second =>
    discard (run (.node first) { isTested := place.isTested })
    if (← Sh.get).skip ≠ .none then return none else withStatus (run (.node second) place)
  | .negate body =>
    withStatus do
      let status ← run (.node body) { isTested := true }
      return if status = 0 then 1 else 0
  | .choice test body otherwise =>
    let status ← run (.node test) { isTested := true }
    if (← Sh.get).skip ≠ .none then return none
    else match (if status = 0 then some body else otherwise) with
      | some n => withStatus (run (.node n) place)
      | none => withStatus (return 0)
  | .loop untilTrue test body =>
    withStatus (inLoop (runLoop run untilTrue test body { isTested := place.isTested }
      1000000000000000 0))
  | .each line name words body =>
    Sh.modify fun s => { s with line }
    let values ← restFields sub false words
    withStatus (inLoop (runEach run name body { isTested := place.isTested } 0 values))
  | .cases line subject arms =>
    Sh.modify fun s => { s with line }
    let text ← Expand.text sub .start subject
    withStatus do
      match ← findArm sub text.toList arms with
      | some body => run (.node body) place
      | none => return 0
  | .define _ name body =>
    Sh.modify fun s => { s with
      functions := Shell.putEntry name body s.functions
      located := Shell.dropEntry name s.located }
    withStatus (return 0)

/-- Whether a failure of a command may end a script. -/
def endsOnFailure : Node → Bool
  | .simple .. | .pipeline .. | .background .. | .subshell .. => true
  | _ => false

/-- How long a command takes at least, in microseconds. -/
def commandTime : Nat := 10

/-- Runs a command, and the traps of signals around it. -/
def runCommand (run : Runner) (n : Node) (place : Standing) : Sh Nat := do
  if ← Sh.has "noexec" then pure ()
  else
    Sh.ask (.work commandTime)
    runTraps run
    let status? ← runNode run n place
    runTraps run
    if endsOnFailure n then endOnFailure (status?.getD 0) place
  if place.isLast then Sh.leave .finished
  return (← Sh.get).status

/-! ### Texts and files -/

/-- Fails because a script makes no sense. -/
def failSyntax {α : Type} (line : Nat) (reason : String) : Sh α := do
  Sh.modify fun s => { s with line }
  Sh.fail ("Syntax error: " ++ reason)

/-- Runs the commands of a text, line by line. -/
def runLines (run : Runner) (place : Standing) : Nat → Nat → Reader → Sh Nat
  | 0, status, _ => return status
  | steps + 1, status, reader => do
    let s ← Sh.get
    match ({ reader with aliases := s.aliases } : Reader).readLine with
    | .error .incomplete => failSyntax reader.line "too deep"
    | .error (.bad line reason) => failSyntax line reason
    | .ok (.eof, _) => return status
    | .ok (.command none, reader) => runLines run place steps status reader
    | .ok (.command (some n), reader) =>
      let isLast := place.isLast && reader.isPushedBack && reader.token = .eof
      let status ← run (.node n) { place with isLast }
      if (← Sh.get).skip ≠ .none then return status else runLines run place steps status reader

/-- How many bytes of a file of commands are read at once. -/
def blockSize : Nat := 8192

/-- Reads more of a file of commands. -/
def readMore (number : Nat) (reader : Reader) : Sh Reader := do
  let got ← Sh.ask (.read number blockSize)
  match got with
  | .error .interrupted => return reader
  | .error _ => return { reader with mayGoOn := false }
  | .ok bytes =>
    if bytes.size = 0 then return { reader with mayGoOn := false }
    else return { reader with rest := reader.rest ++ (bytes.toList.filter (· ≠ 0)).map octet }

/-- Runs the commands of a file, line by line. -/
def runFileLines (run : Runner) (number : Nat) : Nat → Nat → Reader → Sh Nat
  | 0, status, _ => return status
  | steps + 1, status, reader => do
    let s ← Sh.get
    let reader := { reader with aliases := s.aliases }
    match reader.readLine with
    | .error .incomplete =>
      if reader.mayGoOn then
        Sh.noteSignals
        runFileLines run number steps status (← readMore number reader)
      else failSyntax reader.line "too deep"
    | .error (.bad line reason) => failSyntax line reason
    | .ok (line, after) =>
      if s.has "verbose" then
        Sh.writeError (String.ofList
          (reader.rest.take (reader.rest.length - after.rest.length)))
      match line with
      | .eof => return status
      | .command none => runFileLines run number steps status after
      | .command (some n) =>
        let status ← run (.node n) {}
        let s ← Sh.get
        match s.skip with
        | .none => runFileLines run number steps status after
        | .leaveFunction _ =>
          Sh.set { s with skip := .none }
          return status
        | _ => return status

/-- How deeply texts may be nested before there is no room for more. -/
def maxTextDepth : Nat := 10000

/-- How deeply files may be nested before there is no room for more. -/
def maxFileDepth : Nat := 5000

/-- Does something inside of other texts or files, of which there may be so many. -/
def deeper (limit : Nat) (body : Sh Nat) : Sh Nat := do
  let s ← Sh.get
  if limit ≤ s.textDepth then
    let (id, _) ← Sh.ask .identity
    discard (Sh.ask (.send id 11))
    Sh.exit 139
  else
    Sh.set { s with textDepth := s.textDepth + 1 }
    let result ← Sh.attempt body
    Sh.modify fun now => { now with textDepth := s.textDepth }
    match result with
    | .ok status => return status
    | .error l => Sh.leave l

/-- How many lines a script has at most. -/
def maxLines : Nat := 1000000000000

/-- Runs something, given how to run what is in it. -/
def runOnce (run : Runner) : Runner
  | .node n, place => runCommand run n place
  | .text script, place =>
    deeper maxTextDepth (runLines run place maxLines 0 { rest := script, mayGoOn := false, line := 1 })
  | .file number, _ =>
    deeper maxFileDepth
      (runFileLines run number maxLines 0 { rest := [], mayGoOn := true, line := 1 })

/-- Runs something in which things are nested so many times at most. -/
def runWithin : Nat → Code → Standing → Sh Nat
  | 0, _, _ => Sh.leave .finished
  | depth + 1, code, place => runOnce (runWithin depth) code place

/-- How deeply things that run are nested at most. -/
def maxDepth : Nat := 1000000000000

/-- Runs something. -/
def run (code : Code) (place : Standing) : Sh Nat :=
  runWithin maxDepth code place

end Evaluation

end LuaBundler.Shell
