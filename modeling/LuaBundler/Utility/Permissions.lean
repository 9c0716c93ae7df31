import LuaBundler.Utility.Entries

/-!
# Utilities: permissions

Changing the modes of files.
-/

namespace LuaBundler.Utility

open LuaBundler.Files LuaBundler.System LuaBundler.Text

/-- How `chmod` changes modes. -/
structure ModeChange where
  /-- The mode after the change. -/
  mode : Bool → Nat → Nat
  /-- The mode that whoever does not think of the mask may expect. -/
  expected? : Option (Bool → Nat → Nat)
  isDeep : Bool
  isVerbose : Bool
  tellsChanges : Bool
  isQuiet : Bool

/-- A mode in digits and letters. -/
def toldMode (mode : Nat) : String :=
  Mode.digits mode ++ " (" ++ Mode.letters mode ++ ")"

/-- Changes the mode of an entry and, of a directory, of all that is in it. -/
def changeMode (c : Call) (how : ModeChange) : Nat → String → Action Nat
  | 0, _ => return 1
  | depth + 1, path => do
    let failed (reason : String) : Action Nat :=
      if how.isQuiet then return 1 else c.fail 1 reason
    match ← ask (.facts path true) with
    | .error e =>
      if (← facts? path false).isSome && e = .notFound then
        failed ("cannot operate on dangling symlink " ++ quoted path)
      else failed ("cannot access " ++ quoted path ++ ": " ++ e.reason)
    | .ok f =>
      let mode := how.mode (f.kind = .dir) f.mode
      match ← change (.setMode path mode) with
      | some e => failed ("changing permissions of " ++ quoted path ++ ": " ++ e.reason)
      | none =>
        if mode ≠ f.mode && (how.isVerbose || how.tellsChanges) then
          say ("mode of " ++ quoted path ++ " changed from " ++ toldMode f.mode ++ " to " ++
            toldMode mode)
        else if how.isVerbose then
          say ("mode of " ++ quoted path ++ " retained as " ++ toldMode mode)
        let status ← match how.expected?.map fun m => m (f.kind = .dir) f.mode with
          | none => pure 0
          | some expected =>
            if mode ||| expected = expected then pure 0
            else c.fail 1 (shown path ++ ": new permissions are " ++ Mode.letters mode ++ ", not " ++
              Mode.letters expected)
        if how.isDeep && f.kind = .dir then
          match ← ask (.names path) with
          | .error e => failed ("cannot read directory " ++ quoted path ++ ": " ++ e.reason)
          | .ok names => each (fun name => changeBelow depth (joinPath path name)) status names
        else return status
where
  /-- Changes the mode of an entry of a directory, unless it is a link. -/
  changeBelow (depth : Nat) (path : String) : Action Nat := do
    match ← facts? path false with
    | some f =>
      if f.kind = .link then
        if how.isVerbose then
          say ("neither symbolic link " ++ quoted path ++ " nor referent has been changed")
        return 0
      else changeMode c how depth path
    | none => return 1

/-- Whether a word is a change of modes and no option. -/
def isModeWord (arg : String) : Bool :=
  match arg.toList with
  | '-' :: d :: cs => d ≠ '-' && (d :: cs).all fun c => "rwxXstugo,+-=01234567".toList.contains c
  | _ => false

/-- Changes the modes of files. -/
def chmod : Program := fun c =>
  let front := c.args.takeWhile (· ≠ "--")
  let modes := front.filter isModeWord
  let given? := if modes.isEmpty then none else some (",".intercalate modes)
  let args := front.filter (fun a => !isModeWord a) ++ c.args.drop front.length
  { c with args }.withWords [⟨"R", ["recursive"], .plain⟩, ⟨"v", ["verbose"], .plain⟩,
    ⟨"c", ["changes"], .plain⟩, ⟨"f", ["silent", "quiet"], .plain⟩,
    ⟨"reference", ["reference"], .required⟩,
    ⟨"preserve-root", ["preserve-root"], .plain⟩,
    ⟨"no-preserve-root", ["no-preserve-root"], .plain⟩] fun w => do
    let mask : Nat ← ask (.mask none)
    let run (mode : Bool → Nat → Nat) (expected? : Option (Bool → Nat → Nat))
        (paths : List String) : Action Nat :=
      each (changeMode c ⟨mode, expected?, w.has "R", w.has "v", w.has "c", w.has "f"⟩ 10000) 0 paths
    match w.get? "reference", given? with
    | some _, some _ => c.misused 1 "cannot combine mode and --reference options"
    | some path, none =>
      if w.operands.isEmpty then c.misused 1 "missing operand"
      else match ← ask (.facts path true) with
        | .error e => c.fail 1 ("failed to get attributes of " ++ quoted path ++ ": " ++ e.reason)
        | .ok f => run (fun _ _ => f.mode) none w.operands
    | none, _ =>
      match given?.toList ++ w.operands with
      | [] => c.misused 1 "missing operand"
      | [text] =>
        c.misused 1 (if given?.isSome then "missing operand" else "missing operand after " ++ cited text)
      | text :: paths =>
        let modeWith (mask : Nat) (isDir : Bool) (mode : Nat) : Nat :=
          (Mode.ofText? text isDir mask mode).getD mode
        if (Mode.ofText? text false mask 0).isNone then
          c.misused 1 ("invalid mode: " ++ cited text)
        else run (modeWith mask) (given?.map fun _ => modeWith 0) paths

end LuaBundler.Utility
