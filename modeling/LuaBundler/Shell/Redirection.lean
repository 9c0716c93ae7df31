import LuaBundler.Shell.Expansion
import LuaBundler.Shell.Job

/-!
# Redirections

What redirections do to the numbers of a shell. Before a command, what a number stood for is saved
under a number that programs do not inherit, so that it can be restored after the command.
-/

namespace LuaBundler.Shell

open LuaBundler.Files LuaBundler.System LuaBundler.Text

/-- A redirection whose words have been expanded. -/
inductive Ready where
  | open (number : Nat) (access : Access) (path : String)
  | copy (number : Nat) (source? : Option Nat)
  | document (number : Nat) (isLiteral : Bool) (text : Word)

namespace Ready

/-- The number that is redirected. -/
def number : Ready → Nat
  | .open n _ _ => n
  | .copy n _ => n
  | .document n _ _ => n

end Ready

namespace Redirection

/-! ### Words -/

/-- The number that the word of a copy means: a digit, or none for a minus sign. -/
def source? (text : String) : Option (Option Nat) :=
  match text.toList with
  | [c] => if c.isDigit then some (some (c.toNat - 48)) else if c = '-' then some none else none
  | _ => none

/-- Expands the words of redirections. -/
def expand (sub : Substitution) : List Redirect → Sh (List Ready)
  | [] => return []
  | r :: rs => do
    let ready ← match r with
      | .open number access path => do
        pure (Ready.open number access (← Expand.text sub .start path))
      | .copy number _ source => do
        match source? (← Expand.text sub .start source) with
        | some source? => pure (Ready.copy number source?)
        | none => Sh.fail "Syntax error: Bad fd number"
      | .document number isLiteral text => pure (Ready.document number isLiteral text)
    return ready :: (← expand sub rs)

/-! ### Opening -/

/-- Why a file cannot be opened or made, or a program not run. -/
def reason (missing : String) (e : FileError) : String :=
  match e with
  | .notFound | .notDirectory => missing
  | e => e.reason

/-- Opens a file, or fails with a complaint. -/
def openOr (verb missing path : String) (how : Opening) : Sh Nat := do
  match ← Sh.ask (.open path how) with
  | .ok n => return n
  | .error e => Sh.fail ("cannot " ++ verb ++ " " ++ path ++ ": " ++ reason missing e)

/-- Opens a file that is made if it is missing. -/
def create (path : String) (how : Opening) : Sh Nat :=
  openOr "create" "Directory nonexistent" path { how with create := true }

/-- Opens a file that must not be overwritten. -/
def createFresh (path : String) : Sh Nat := do
  match ← Sh.ask (.facts path true) with
  | .error _ => create path { write := true, fresh := true }
  | .ok facts =>
    if facts.kind = .file then Sh.fail ("cannot create " ++ path ++ ": File exists")
    else openOr "create" "Directory nonexistent" path { write := true }

/-- Opens the target of a redirection. -/
def openTarget (access : Access) (path : String) : Sh Nat := do
  match access with
  | .read => openOr "open" "No such file" path { read := true }
  | .readWrite => create path { read := true, write := true }
  | .append => create path { write := true, append := true }
  | .overwrite => create path { write := true, truncate := true }
  | .write =>
    if ← Sh.has "noclobber" then createFresh path else create path { write := true, truncate := true }

/-- Opens a pipe that a text can be read from. A text that is too long for the pipe is written by a
child. -/
def openDocument (text : String) : Sh Nat := do
  let (source, target) ← Sh.ask .pipe
  if text.length ≤ 4096 then
    discard (Sh.writeTo target text)
  else
    let number ← Sh.newJob
    Sh.spawn number .nested do
      discard (Sh.ask (.close source))
      for signal in [1, 2, 3, 20] do
        Sh.ask (.react signal .ignore)
      Sh.ask (.react sigpipe .usual)
      discard (Sh.writeTo target text)
      return 0
    Sh.dropJob number
  discard (Sh.ask (.close target))
  return source

/-! ### Saving -/

/-- Saves what a number stands for. -/
def saveNumber (number : Nat) (isMoved : Bool) : Sh (Option Nat) := do
  if !isMoved then return none
  else
    match ← Sh.ask (.duplicate number 10) with
    | .ok copy =>
      discard (Sh.ask (.close number))
      return some copy
    | .error _ => return none

/-- Saves what a number stands for, once for each command. -/
def save (number : Nat) (isMoved : Bool) : Sh Unit := do
  match (← Sh.get).redirects with
  | saved :: rest =>
    if saved.any (·.1 == number) then pure ()
    else
      let copy ← saveNumber number isMoved
      Sh.modify fun s => { s with redirects := ((number, copy) :: saved) :: rest }
  | [] => pure ()

/-- Lets a number stand for an opened file. -/
def install (source number : Nat) : Sh Unit := do
  if source ≠ number then
    discard (Sh.ask (.replace source number))
    discard (Sh.ask (.close source))

/-- Does one redirection. -/
def applyOne (sub : Substitution) (saves : Bool) (r : Ready) : Sh Unit := do
  let number := r.number
  match r with
  | .open _ access path =>
    let opened ← openTarget access path
    if saves then save number (opened ≠ number)
    install opened number
  | .document _ isLiteral text =>
    let text ← if isLiteral then pure (String.ofList text.literal)
      else Expand.document sub text
    let opened ← openDocument text
    if saves then save number (opened ≠ number)
    install opened number
  | .copy _ none =>
    if saves then save number true
    discard (Sh.ask (.close number))
  | .copy _ (some source) =>
    if source ≠ number then
      if saves then save number true
      match ← Sh.ask (.replace source number) with
      | .ok _ => pure ()
      | .error e => Sh.fail (decimal source ++ ": " ++ e.reason)

/-- Does redirections for good. -/
def apply (sub : Substitution) (rs : List Ready) : Sh Unit := do
  for r in rs do
    applyOne sub false r

/-- Does redirections that will be undone, and gives whether that worked. -/
def push (sub : Substitution) (rs : List Ready) : Sh Bool := do
  Sh.modify fun s => { s with redirects := [] :: s.redirects }
  match ← Sh.attempt (rs.forM (applyOne sub true)) with
  | .ok _ => return true
  | .error .error => return false
  | .error l => Sh.leave l

/-- Restores one number. -/
def restore (keeps : Bool) (saved : Nat × Option Nat) : Sh Unit := do
  match saved.2 with
  | some copy =>
    if !keeps then discard (Sh.ask (.replace copy saved.1))
    discard (Sh.ask (.close copy))
  | none => if !keeps then discard (Sh.ask (.close saved.1))

/-- Undoes the last redirections, or lets them stay. -/
def pop (keeps : Bool) : Sh Unit := do
  match (← Sh.get).redirects with
  | saved :: rest =>
    Sh.modify fun s => { s with redirects := rest }
    for entry in saved do
      restore keeps entry
  | [] => pure ()

/-- Undoes redirections until so many are left. -/
def popTo (depth : Nat) : Nat → Sh Unit
  | 0 => pure ()
  | steps + 1 => do
    if depth < (← Sh.get).redirects.length then
      pop false
      popTo depth steps

end Redirection

end LuaBundler.Shell
