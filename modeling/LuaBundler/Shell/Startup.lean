import LuaBundler.Shell.Evaluation

/-!
# The shell as a program

How a shell starts: it takes its variables over from its environment, reads its options, and runs a
text, a file, or what it reads.
-/

namespace LuaBundler.Shell

open LuaBundler.System LuaBundler.Text

namespace Startup

/-! ### Variables -/

/-- The variables that every shell has. -/
def usualVars : List (String × Variable) :=
  [("OPTIND", "1"), ("PS4", "+ "), ("PS2", "> "), ("PS1", "# "), ("PATH", safePath),
    ("IFS", " \t\n")].map fun v => (v.1, { value? := some v.2 })

/-- The variables of an environment in which names are valid. -/
def envVars (vars : List (String × Variable)) (env : List String) : List (String × Variable) :=
  env.foldl (fun vars entry =>
    match assignment? entry.toList with
    | some (name, value) =>
      Shell.putEntry name { value? := some value, isExported := true } vars
    | none => vars) vars

/-- Sets a variable, but keeps whether it is exported. -/
def putValue (name value : String) : Sh Unit :=
  Sh.modify fun s =>
    let old := (s.vars.lookup name).getD { value? := none }
    s.putVar name { old with value? := some value }

/-- The working directory as a path of the environment tells, if it does. -/
def cwdOf (path? : Option String) : Sh String := do
  match path? with
  | some path =>
    if path.startsWith "/" then
      match ← Sh.ask (.facts path true), ← Sh.ask (.facts "." true) with
      | .ok f, .ok g => if f.number = g.number then return path else Builtin.physicalDir
      | _, _ => Builtin.physicalDir
    else Builtin.physicalDir
  | none => Builtin.physicalDir

/-- Sets the variables that do not come from the environment, and the working directory. -/
def setVars : Sh Unit := do
  let (id, parent) ← Sh.ask .identity
  Sh.modify fun s => { s with rootProcess := id }
  putValue "IFS" " \t\n"
  putValue "OPTIND" "1"
  putValue "PPID" (decimal parent)
  let cwd ← cwdOf ((← Sh.get).get? "PWD")
  Sh.modify fun s => { s with cwd }
  Sh.setVar "PWD" (some cwd) true

/-- The signals that are ignored from the start. -/
def noteIgnored (signals : List Nat) : Sh Unit := do
  for signal in signals do
    let isIgnored : Bool ← Sh.ask (.ignores signal)
    if isIgnored then Sh.modify fun s => { s with ignored := signal :: s.ignored }

/-! ### What is run -/

/-- Names the shell and sets its arguments. -/
def setNames (words : List String) : Sh Unit :=
  match words with
  | [] => pure ()
  | name :: params => Sh.modify fun s => { s with name, params }

/-- Runs what a shell was started for. -/
def runAll (args : List String) : Sh Unit := do
  setVars
  noteIgnored (List.range' 1 31)
  let (words, hasText) ← Builtin.readOptions true (args.length + 1) false args
  if words.isEmpty then
    if hasText then Sh.fail "-c requires an argument"
    Builtin.turn "stdin" true
  let readsInput ← Sh.has "stdin"
  if hasText then
    setNames (words.drop 1)
    discard (Evaluation.run (.text (words.headD "").toList) {})
    if readsInput then discard (Evaluation.run (.file 0) {})
  else if readsInput then
    Sh.modify fun s => { s with params := words }
    discard (Evaluation.run (.file 0) {})
  else
    let number ← Evaluation.openScript (words.headD "")
    Sh.modify fun s => { s with script? := some number }
    setNames words
    discard (Evaluation.run (.file number) {})

end Startup

/-- A shell that is called by a name with arguments; it gives the status that it ends with. -/
def program (name : String) (args env : List String) : Action Nat :=
  fun next =>
    let s : Shell := { name, line := 0, vars := Startup.envVars Startup.usualVars env }
    Evaluation.asProcess Evaluation.run (Startup.runAll args) (fun _ s => next s.status)
      (fun status _ => next status) s

end LuaBundler.Shell
