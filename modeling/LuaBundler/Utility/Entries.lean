import LuaBundler.Text.Split
import LuaBundler.Utility.Mode
import LuaBundler.Utility.Options

/-!
# Utilities: entries of directories

What the utilities have in common that make, remove, copy, move or link entries of directories:
doing something with each of several operands, asking whether it should be done, and keeping what
would be overwritten under another name.
-/

namespace LuaBundler.Utility

open LuaBundler.Files LuaBundler.System LuaBundler.Text

/-- Makes a change; gives the failure if that does not work. -/
def change (r : DiskChange) : Action (Option FileError) := do
  match ← ask (.change r) with
  | .ok _ => return none
  | .error e => return some e

/-- Does something with each of several operands. Gives the greatest status. -/
def each (f : String → Action Nat) (status : Nat) : List String → Action Nat
  | [] => return status
  | a :: as => do
    let s ← f a
    each f (max status s) as

/-- Prints a line. -/
def say (text : String) : Action Unit :=
  discard (write 1 (text ++ "\n"))

/-- The names in a directory in order. -/
def sortedNames (path : String) : Action (Except FileError (List String)) := do
  match ← ask (.names path) with
  | .ok names => return .ok (names.mergeSort fun a b => a ≤ b)
  | .error e => return .error e

/-- The paths of the directories above a path and of the path itself, from the top. -/
def ancestors (path : String) : List String :=
  let names := (splitOn '/' path.toList).filter (· ≠ [])
  let start := if path.startsWith "/" then "/" else ""
  (List.range names.length).map fun i =>
    start ++ "/".intercalate ((names.take (i + 1)).map String.ofList)

/-! ### Questions -/

/-- The line that comes next, of which only the first character matters. -/
def readAnswer : Nat → Option UInt8 → Action (Option UInt8)
  | 0, first? => return first?
  | steps + 1, first? => do
    match ← ask (.read 0 1) with
    | .error _ => return first?
    | .ok bytes =>
      match bytes.toList.head? with
      | none | some 10 => return first?
      | some b => readAnswer steps (first?.or (some b))

/-- Asks a question; whether the answer starts with a `y`. -/
def Call.confirm (c : Call) (question : String) : Action Bool := do
  c.note (c.name ++ ": " ++ question ++ "? ")
  let first? ← readAnswer maxSteps none
  return first? == some 121 || first? == some 89

/-! ### Backups -/

/-- How what is about to be overwritten is kept. -/
inductive BackupKind where
  | simple
  | numbered
  /-- With a number if there are others with one. -/
  | existing
  deriving DecidableEq

/-- How what is about to be overwritten is kept, and what is put after its name. -/
structure Backup where
  kind : BackupKind
  suffix : String

namespace Backup

/-- The options that ask for backups. -/
def choices : List Choice :=
  [⟨"b", [], .plain⟩, ⟨"backup", ["backup"], .possible⟩, ⟨"S", ["suffix"], .required⟩]

/-- The backups that options ask for. -/
def read (w : Words) : Except String (Option Backup) := do
  let suffix := (w.get? "S").getD "~"
  let some key := w.last? ["b", "backup", "S"] | return none
  let text := if key = "b" then "" else (w.get? "backup").getD ""
  if text = "" then return some ⟨.existing, suffix⟩
  else match ← namedValue "backup type" [["none", "off"], ["simple", "never"], ["existing", "nil"],
      ["numbered", "t"]] text with
    | "none" => return none
    | "simple" => return some ⟨.simple, suffix⟩
    | "existing" => return some ⟨.existing, suffix⟩
    | _ => return some ⟨.numbered, suffix⟩

/-- The number of a numbered backup of a name. -/
def numberOf? (name entry : String) : Option Nat :=
  let start := name ++ ".~"
  if start.isPrefixOf entry && entry.endsWith "~" && start.length + 1 < entry.length then
    natural? (String.ofList ((entry.toList.drop start.length).dropLast))
  else none

/-- The path that a backup of a path gets. -/
def pathFor (b : Backup) (path : String) : Action String := do
  let names := match ← ask (.names (parentOf path)) with
    | .ok names => names
    | .error _ => []
  let last := (names.filterMap (numberOf? (lastName path))).foldl max 0
  if b.kind = .numbered || (b.kind = .existing && 0 < last) then
    return path ++ ".~" ++ decimal (last + 1) ++ "~"
  else return path ++ b.suffix

/-- Puts an entry out of the way; gives where it is now. -/
def keep (b : Backup) (path : String) : Action (Option String) := do
  let kept ← b.pathFor path
  match ← change (.rename path kept) with
  | none => return some kept
  | some _ => return none

end Backup

/-- What is told of a backup that was made. -/
def backupNote (kept? : Option String) : String :=
  match kept? with
  | some kept => " (backup: " ++ quoted kept ++ ")"
  | none => ""

/-! ### Targets -/

/-- Where operands go: each into a directory, or one to a path. -/
structure Targets where
  sources : List String
  target : String
  isInto : Bool

namespace Targets

/-- Where an operand goes. -/
def pathOf (t : Targets) (source : String) : String :=
  if t.isInto then joinPath t.target (lastName source) else t.target

/-- The options that say where operands go. -/
def choices : List Choice :=
  [⟨"t", ["target-directory"], .required⟩, ⟨"T", ["no-target-directory"], .plain⟩]

/-- Finds out where operands go. A failure comes with whether it is one of how the options are
used. -/
def find (w : Words) : Action (Except (String × Bool) Targets) := do
  let dirFault (what path : String) : Action (Option String) := do
    match ← ask (.facts path true) with
    | .error e => return some (what ++ " " ++ quoted path ++ ": " ++ e.reason)
    | .ok g =>
      if g.kind = .dir then return none
      else return some (what ++ " " ++ quoted path ++ ": Not a directory")
  let isExact := w.has "T"
  match w.get? "t", w.operands with
  | _, [] => return .error ("missing file operand", true)
  | some dir, sources =>
    if isExact then
      return .error ("cannot combine --target-directory (-t) and --no-target-directory (-T)", false)
    else match ← dirFault "target directory" dir with
      | some fault => return .error (fault, false)
      | none => return .ok ⟨sources, dir, true⟩
  | none, [a] => return .error ("missing destination file operand after " ++ quoted a, true)
  | none, [source, target] =>
    if isExact then return .ok ⟨[source], target, false⟩
    else return .ok ⟨[source], target, ← isDir target⟩
  | none, operands =>
    let target := operands.getLast?.getD ""
    if isExact then return .error ("extra operand " ++ cited (operands.getD 2 ""), true)
    else match ← dirFault "target" target with
      | some fault => return .error (fault, false)
      | none => return .ok ⟨operands.dropLast, target, true⟩

end Targets

/-- Complains of a failure, which comes with whether it is one of how the options are used. -/
def Call.complainOfFault (c : Call) (fault : String × Bool) : Action Nat :=
  if fault.2 then c.misused 1 fault.1 else c.fail 1 fault.1

end LuaBundler.Utility
