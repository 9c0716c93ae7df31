import LuaBundler.Shell.Builtin.Basic
import LuaBundler.System.Disk
import LuaBundler.Utility.Mode

/-!
# Builtins: directories and limits

Where a shell is, and what the files that it makes are like.
-/

namespace LuaBundler.Shell.Builtin

open LuaBundler.System LuaBundler.Text LuaBundler.Utility

/-! ### The working directory -/

/-- A path without its last name, if it has one after a part that stays. -/
def dropName (kept : List Char) (path : List Char) : List Char :=
  if path.length ≤ kept.length then path
  else
    let shorter := (path.reverse.drop 1).dropWhile (· ≠ '/') |>.reverse
    if shorter.length < kept.length then kept else shorter

/-- Follows the names of a path from a path that ends in a slash, without looking at files. -/
def followNames (kept : List Char) : List (List Char) → List Char → List Char
  | [], path => path
  | name :: names, path =>
    if name = ['.'] then followNames kept names path
    else if name = ['.', '.'] then followNames kept names (dropName kept path)
    else followNames kept names (path ++ name ++ ['/'])

/-- The path that a path means from a directory, without looking at files. -/
def logicalPath (cwd path : String) : String :=
  let cs := path.toList
  let names := (splitOn '/' cs).filter (· ≠ [])
  let (kept, start) : List Char × List Char := match cs with
    | '/' :: '/' :: rest =>
      if rest.head? = some '/' then (['/'], ['/']) else (['/', '/'], ['/', '/'])
    | '/' :: _ => (['/'], ['/'])
    | _ =>
      let cwd := cwd.toList
      let start := if cwd.getLast? = some '/' then cwd else cwd ++ ['/']
      ((if start.take 2 = ['/', '/'] then ['/', '/'] else ['/']), start)
  let path := followNames kept names start
  String.ofList (if kept.length < path.length then path.dropLast else path)

/-- The path of the working directory, free of links. -/
def physicalDir : Sh String := do
  match ← Sh.ask .currentDir with
  | .ok path => return path
  | .error _ => return (← Sh.get).cwd

/-- Remembers the working directory. -/
def setCwd (path : String) (keepsOld : Bool) : Sh Unit := do
  let old := (← Sh.get).cwd
  if keepsOld then Sh.setVar "OLDPWD" (some old) true
  Sh.modify fun s => { s with
    cwd := path, located := s.located.map fun l => (l.1, { l.2 with isStale := true }) }
  Sh.setVar "PWD" (some path) true

/-- Goes to a directory; gives whether that worked. -/
def enterDir (path : String) (isPhysical : Bool) : Sh Bool := do
  let cwd := (← Sh.get).cwd
  let target := if isPhysical then path else logicalPath cwd path
  match ← Sh.ask (.enterDir target) with
  | .error _ => return false
  | .ok _ =>
    if isPhysical then setCwd (← physicalDir) true else setCwd target true
    return true

/-- Whether a path starts at the root, or in the working directory or the one above it. -/
def isAnchored (path : String) : Bool :=
  match path.toList with
  | '/' :: _ => true
  | ['.'] => true
  | '.' :: '/' :: _ => true
  | ['.', '.'] => true
  | '.' :: '.' :: '/' :: _ => true
  | _ => false

/-- Whether a path leads to a directory. -/
def leadsToDir (path : String) : Sh Bool := do
  match ← Sh.ask (.facts path true) with
  | .ok facts => return facts.kind = .dir
  | .error _ => return false

/-- The first directory of a list that has a path in it, and whether it was named. -/
def findDir (path : String) : List String → Sh (Option (String × Bool))
  | [] => return none
  | dir :: dirs => do
    let candidate := if dir = "" then path else dir ++ "/" ++ path
    if ← leadsToDir candidate then return some (candidate, dir ≠ "")
    else findDir path dirs

/-- The texts between colons. -/
def colonParts (s : String) : List String :=
  (splitOn ':' s.toList).map String.ofList

/-- Whether the options of a command ask for paths free of links. -/
def asksPhysical (opts : List (Char × String)) : Bool :=
  (opts.getLast?.map (·.1)) = some 'P'

/-- Goes to another directory. -/
def cd (args : List String) : Sh Nat := do
  let (opts, args) ← options "LP" args
  let isPhysical := asksPhysical opts
  let s ← Sh.get
  let (dest, prints) := match args with
    | [] => ((s.get? "HOME").getD "", false)
    | "-" :: _ => ((s.get? "OLDPWD").getD "", true)
    | a :: _ => (a, false)
  let go (path : String) (prints : Bool) : Sh Nat := do
    if ← enterDir path isPhysical then
      if prints then Sh.print ((← Sh.get).cwd ++ "\n")
      return 0
    else Sh.fail ("can't cd to " ++ (if dest = "" then "." else dest))
  if isAnchored dest then go dest prints
  else
    let dest := if dest = "" then "." else dest
    match s.get? "CDPATH" with
    | none => go dest prints
    | some dirs =>
      match ← findDir dest (colonParts dirs) with
      | some (path, wasNamed) => go path (prints || wasNamed)
      | none => go dest prints

/-- Prints the working directory. -/
def pwd (args : List String) : Sh Nat := do
  let (opts, _) ← options "LP" args
  let dir ← do
    if asksPhysical opts then physicalDir
    else pure (← Sh.get).cwd
  Sh.print (dir ++ "\n")
  return 0

/-! ### The mask of new files -/

/-- The permission letters of three bits. -/
def permissionLetters (bits : Nat) : String :=
  (if bits &&& 4 ≠ 0 then "r" else "") ++ (if bits &&& 2 ≠ 0 then "w" else "") ++
    (if bits &&& 1 ≠ 0 then "x" else "")

/-- The permissions that a mask leaves. -/
def maskText (mask : Nat) : String :=
  let left := mask ^^^ 0o777
  "u=" ++ permissionLetters (left / 64) ++ ",g=" ++ permissionLetters (left / 8 % 8) ++
    ",o=" ++ permissionLetters (left % 8)

/-- A number with four octal digits at least. -/
def octalText (n : Nat) : String :=
  let digits := String.ofList (Nat.toDigits 8 n)
  String.ofList (List.replicate (4 - digits.length) '0') ++ digits

/-- Shows or sets the mask of new files. -/
def umask (args : List String) : Sh Nat := do
  let (opts, args) ← options "S" args
  let old : Nat ← Sh.ask (.mask none)
  match args with
  | [] =>
    Sh.print ((if opts.isEmpty then octalText old else maskText old) ++ "\n")
    return 0
  | a :: _ =>
    let new ← if (a.toList.head?.elim false Char.isDigit) then
        if a.toList.all fun c => '0' ≤ c && c ≤ '7' then
          pure (a.toList.foldl (fun n c => n * 8 + (c.toNat - 48)) 0)
        else failNumber a
      else
        match Mode.change? a.toList with
        | some steps => pure (Mode.apply steps false 0 (old ^^^ 0o777) ^^^ 0o777)
        | none => Sh.fail ("Illegal mode: " ++ a)
    let _ : Nat ← Sh.ask (.mask (some (new &&& 0o777)))
    return 0

/-! ### Limits -/

/-- The limits with their units, letters and values. -/
def limits : List (String × Char × String) := [("time(seconds)", 't', "unlimited"),
  ("file(blocks)", 'f', "unlimited"), ("data(kbytes)", 'd', "unlimited"),
  ("stack(kbytes)", 's', "8192"), ("coredump(blocks)", 'c', "0"), ("memory(kbytes)", 'm', "unlimited"),
  ("locked memory(kbytes)", 'l', "unlimited"), ("process", 'p', "unlimited"),
  ("nofiles", 'n', "1024"), ("vmemory(kbytes)", 'v', "unlimited"), ("locks", 'w', "unlimited"),
  ("rtprio", 'r', "0")]

/-- Shows limits; a limit that is set has no effect. -/
def ulimit (args : List String) : Sh Nat := do
  let (opts, args) ← options "HSatfdscmlpnvwr" args
  let letters := (opts.map (·.1)).filter fun c => c ≠ 'H' && c ≠ 'S'
  let letter := letters.getLast?.getD 'f'
  match args with
  | [a] =>
    if letter = 'a' then Sh.fail "too many arguments"
    else if a = "unlimited" ∨ (decimalOf? a).isSome then return 0
    else Sh.fail "bad number"
  | [] =>
    if letter = 'a' then
      for (name, _, value) in limits do
        Sh.print (name ++ String.ofList (List.replicate (21 - name.length) ' ') ++ value ++ "\n")
    else
      for (_, c, value) in limits do
        if c = letter then Sh.print (value ++ "\n")
    return 0
  | _ => Sh.fail "too many arguments"

end LuaBundler.Shell.Builtin
