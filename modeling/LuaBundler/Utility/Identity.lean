import LuaBundler.Text.Split
import LuaBundler.Utility.Entries

/-!
# Utilities: who and where

What a system is called, who uses it, and where its programs are. There is one user, who may do
everything.
-/

namespace LuaBundler.Utility

open LuaBundler.Files LuaBundler.System LuaBundler.Text

/-! ### Users -/

/-- The name of the user. -/
def userName : String := "root"

/-- Whether a name or number is that of a user who is known. -/
def isKnownUser (name : String) : Bool :=
  name = userName || name = "0"

/-- Whether a name or number can stand for a user or a group. -/
def standsForUser (name : String) : Bool :=
  name = userName || (natural? name).isSome

/-- Prints what the user is known as. -/
def identity : Program := fun c =>
  c.withWords [⟨"a", [], .plain⟩, ⟨"g", ["group"], .plain⟩, ⟨"G", ["groups"], .plain⟩,
    ⟨"n", ["name"], .plain⟩, ⟨"r", ["real"], .plain⟩, ⟨"u", ["user"], .plain⟩,
    ⟨"z", ["zero"], .plain⟩] fun w => do
  let chosen := (["u", "g", "G"].filter w.has).length
  if 1 < chosen then c.fail 1 "cannot print \"only\" of more than one choice"
  else if chosen = 0 && (w.has "n" || w.has "r") then
    c.fail 1 "cannot print only names or real IDs in default format"
  else if chosen = 0 && w.has "z" then
    c.fail 1 "option --zero not permitted in default format"
  else
    let users := if w.operands.isEmpty then [userName] else w.operands
    each (fun user => do
      if !isKnownUser user then c.fail 1 (cited user ++ ": no such user")
      else if chosen = 0 then c.finish "uid=0(root) gid=0(root) groups=0(root)\n" 0
      else
        let ending := if w.has "z" then "\x00" else "\n"
        c.finish ((if w.has "n" then userName else "0") ++ ending) 0) 0 users

/-- A program that takes no operands and prints a text. -/
def printing (text : String) : Program := fun c =>
  c.withWords [] fun w =>
    match w.operands with
    | [] => c.finish (text ++ "\n") 0
    | extra :: _ => c.misused 1 ("extra operand " ++ cited extra)

/-- Prints the name of the user. -/
def whoami : Program := printing userName

/-- Prints the groups of users. -/
def groups : Program := fun c =>
  c.withWords [] fun w =>
    if w.operands.isEmpty then c.finish (userName ++ "\n") 0
    else each (fun user =>
      if isKnownUser user then c.finish (user ++ " : " ++ userName ++ "\n") 0
      else c.fail 1 (cited user ++ ": no such user")) 0 w.operands

/-- Prints who logged in, which nobody did. -/
def logname : Program := fun c => c.fail 1 "no login name"

/-- Changes the owner or the group of files, which all belong to the one user. -/
def changeOwner (isGroup : Bool) : Program := fun c =>
  c.withWords [⟨"R", ["recursive"], .plain⟩, ⟨"h", ["no-dereference"], .plain⟩,
    ⟨"v", ["verbose"], .plain⟩, ⟨"f", ["silent", "quiet"], .plain⟩, ⟨"c", ["changes"], .plain⟩,
    ⟨"H", [], .plain⟩, ⟨"L", [], .plain⟩, ⟨"P", [], .plain⟩] fun w =>
  match w.operands with
  | [] => c.misused 1 "missing operand"
  | [owner] => c.misused 1 ("missing operand after " ++ cited owner)
  | owner :: files => do
    let parts := (Text.splitOn ':' owner.toList).map String.ofList
    let user := if isGroup then "" else parts.headD ""
    let group := if isGroup then owner else parts.getD 1 ""
    if user ≠ "" && !standsForUser user then c.fail 1 ("invalid user: " ++ cited owner)
    else if group ≠ "" && !standsForUser group then
      c.fail 1 ("invalid group: " ++ cited (if isGroup then group else owner))
    else each (fun path => do
      match ← ask (.facts path (!w.has "h")) with
      | .ok _ => return 0
      | .error e =>
        if w.has "f" then return 1
        else c.fail 1 ("cannot access " ++ quoted path ++ ": " ++ e.reason)) 0 files

/-- Changes the owner of files. -/
def chown : Program := changeOwner false

/-- Changes the group of files. -/
def chgrp : Program := changeOwner true

/-! ### The system -/

/-- What a system is called, by the options that ask for it, in the order in which it is printed. -/
def systemNames : List (String × String) := [("s", "Linux"), ("n", "localhost"), ("r", "6.8.0"),
  ("v", "#1 SMP"), ("m", "x86_64"), ("p", "x86_64"),
  ("i", "x86_64"), ("o", "GNU/Linux")]

/-- Prints what the system is called. -/
def uname : Program := fun c =>
  c.withWords [⟨"a", ["all"], .plain⟩, ⟨"s", ["kernel-name"], .plain⟩, ⟨"n", ["nodename"], .plain⟩,
    ⟨"r", ["kernel-release"], .plain⟩, ⟨"v", ["kernel-version"], .plain⟩,
    ⟨"m", ["machine"], .plain⟩, ⟨"p", ["processor"], .plain⟩,
    ⟨"i", ["hardware-platform"], .plain⟩, ⟨"o", ["operating-system"], .plain⟩] fun w =>
  match w.operands with
  | extra :: _ => c.misused 1 ("extra operand " ++ cited extra)
  | [] =>
    let chosen := systemNames.filter fun n =>
      w.has "a" || w.has n.1 || (w.options.isEmpty && n.1 = "s")
    c.finish (" ".intercalate (chosen.map (·.2)) ++ "\n") 0

/-- Prints the kind of machine. -/
def arch : Program := printing "x86_64"

/-- Prints the name of the machine. -/
def hostname : Program := printing "localhost"

/-- Prints the number of processors. -/
def nproc : Program := fun c =>
  c.withWords [⟨"all", ["all"], .plain⟩, ⟨"ignore", ["ignore"], .required⟩] fun w =>
    match w.operands with
    | [] => c.finish (decimal (max 1 (4 - ((w.get? "ignore").bind natural?).getD 0)) ++ "\n") 0
    | extra :: _ => c.misused 1 ("extra operand " ++ cited extra)

/-- Prints that the input is no terminal. -/
def tty : Program := fun c =>
  c.withWords [⟨"s", ["silent", "quiet"], .plain⟩] (fun w =>
    match w.operands with
    | [] => c.finish (if w.has "s" then "" else "not a tty\n") 1 3
    | extra :: _ => c.misused 2 ("extra operand " ++ cited extra)) 2

/-- Waits until files are stored, which they are. -/
def sync : Program := fun c =>
  c.withWords [⟨"d", ["data"], .plain⟩, ⟨"f", ["file-system"], .plain⟩] fun w =>
    each (fun path => do
      match ← ask (.facts path true) with
      | .ok _ => return 0
      | .error e => c.fail 1 ("error opening " ++ quoted path ++ ": " ++ e.reason)) 0 w.operands

/-! ### Where programs are -/

/-- Whether a path leads to a file that can be run. -/
def isProgram (path : String) : Action Bool := do
  return match ← facts? path true with
    | some f => f.kind = .file && f.mode &&& 0o111 ≠ 0
    | none => false

/-- The paths among several that lead to programs; the first one is enough, or all are wanted. -/
def programsAmong (wantsAll : Bool) : List String → Action (List String)
  | [] => return []
  | path :: paths => do
    if ← isProgram path then
      if wantsAll then return path :: (← programsAmong wantsAll paths) else return [path]
    else programsAmong wantsAll paths

/-- Reads the options of `which`: whether all paths are wanted, and whether nothing is printed. -/
def whichOptions : List String → Except String (Bool × Bool × List String)
  | [] => .ok (false, false, [])
  | word :: rest =>
    match word.toList with
    | ['-', '-'] => .ok (false, false, rest)
    | '-' :: c :: cs =>
      match (c :: cs).find? fun d => d ≠ 'a' && d ≠ 's' with
      | some d => .error (String.singleton d)
      | none => do
        let (a, s, names) ← whichOptions rest
        return (a || (c :: cs).contains 'a', s || (c :: cs).contains 's', names)
    | _ => .ok (false, false, word :: rest)

/-- Prints where programs are. -/
def which : Program := fun c => do
  match whichOptions c.args with
  | .error letter =>
    c.note ("Illegal option -" ++ letter ++ "\n")
    let path := if c.name.contains '/' then c.name else "/usr/bin/" ++ c.name
    c.finish ("Usage: " ++ path ++ " [-as] args\n") 2
  | .ok (wantsAll, isSilent, names) =>
    let dirs := (Text.splitOn ':' ((c.get? "PATH").getD "").toList).map String.ofList
    let status ← each (fun name => do
      let paths := if name.toList.contains '/' then [name]
        else dirs.map fun d => (if d = "" then "." else d) ++ "/" ++ name
      let found ← programsAmong wantsAll paths
      if !isSilent then discard (write 1 (joinLines '\n' found))
      return if found.isEmpty then 1 else 0) 0 names
    return if names.isEmpty then 1 else status

end LuaBundler.Utility
