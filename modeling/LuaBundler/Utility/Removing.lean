import LuaBundler.Utility.Entries

/-!
# Utilities: removing files

Removing files, and directories with or without what is in them.
-/

namespace LuaBundler.Utility

open LuaBundler.Files LuaBundler.System LuaBundler.Text

/-! ### Removing -/

/-- How `rm` removes. -/
structure Removal where
  isForced : Bool
  /-- Whether each removal is asked for. -/
  asks : Bool
  isDeep : Bool
  withEmptyDirs : Bool
  isVerbose : Bool

/-- What a file that is to be removed is called. -/
def fileWord (f : Facts) : String :=
  match f.kind with
  | .file => if f.size = 0 then "regular empty file" else "regular file"
  | .dir => "directory"
  | .link => "symbolic link"
  | .device => "character special file"
  | .pipe => "fifo"

/-- Removes an entry and, of a directory, all that is in it. Gives the status, and whether the entry
is gone. -/
def removeWithin (c : Call) (how : Removal) : Nat → String → Action (Nat × Bool)
  | 0, _ => return (1, false)
  | depth + 1, path => do
    let failed (e : FileError) : Action (Nat × Bool) :=
      return (← c.fail 1 ("cannot remove " ++ quoted path ++ ": " ++ e.reason), false)
    let allows (verb : String) (f : Facts) : Action Bool :=
      if how.asks then c.confirm (verb ++ " " ++ fileWord f ++ " " ++ quoted path) else return true
    match ← ask (.facts path false) with
    | .error e =>
      if how.isForced ∧ (e = .notFound ∨ e = .notDirectory) then return (0, true) else failed e
    | .ok f =>
      if f.kind ≠ .dir then
        if !(← allows "remove" f) then return (0, false)
        match ← change (.removeFile path) with
        | none =>
          if how.isVerbose then say ("removed " ++ quoted path)
          return (0, true)
        | some e => failed e
      else if !how.isDeep && !how.withEmptyDirs then failed .isDirectory
      else
        let names ← ask (.names path)
        match names with
        | .error e => failed e
        | .ok names =>
          let (status, isEmpty) ← if how.isDeep && !names.isEmpty then do
              if !(← allows "descend into" f) then return (0, false)
              removeAll (fun name => removeWithin c how depth (joinPath path name)) (0, true) names
            else pure (0, true)
          if status ≠ 0 && !how.asks then return (status, false)
          else if !how.asks && !isEmpty then return (status, false)
          else if !(← allows "remove" f) then return (status, false)
          else match ← change (.removeDir path) with
            | none =>
              if how.isVerbose then say ("removed directory " ++ quoted path)
              return (status, true)
            | some e => failed e
where
  /-- Removes entries one after the other. -/
  removeAll (f : String → Action (Nat × Bool)) (got : Nat × Bool) :
      List String → Action (Nat × Bool)
    | [] => return got
    | name :: names => do
      let (status, isGone) ← f name
      removeAll f (max got.1 status, got.2 && isGone) names

/-- Removes an operand. -/
def removeOperand (c : Call) (how : Removal) (path : String) : Action Nat := do
  let name := lastName path
  if how.isDeep && (name = "." || name = "..") then
    c.fail 1 ("refusing to remove '.' or '..' directory: skipping " ++ quoted path)
  else if how.isDeep && name = "/" then
    c.complain "it is dangerous to operate recursively on '/'"
    c.fail 1 "use --no-preserve-root to override this failsafe"
  else return (← removeWithin c how 10000 path).1

/-- When `rm` asks: never, for each removal, or once if much is to be removed. -/
inductive Asking where
  | never
  | each
  | once
  deriving DecidableEq

/-- When options say that `rm` asks, and whether a missing file is no failure. -/
def askingOf (w : Words) : Except String (Asking × Bool) :=
  w.options.foldlM (fun (asking, isForced) (key, value) => do
    match key with
    | "f" => return (.never, true)
    | "i" => return (.each, false)
    | "I" => return (.once, false)
    | "interactive" =>
      if value = "" then return (.each, false)
      else
        let times := [["never", "no", "none"], ["once"], ["always", "yes"]]
        match ← namedValue "--interactive" times value with
        | "never" => return (.never, isForced)
        | "once" => return (.once, false)
        | _ => return (.each, false)
    | _ => return (asking, isForced)) (Asking.never, false)

/-- The options of `rm`. -/
def removalChoices : List Choice := [⟨"f", ["force"], .plain⟩, ⟨"i", [], .plain⟩, ⟨"I", [], .plain⟩,
  ⟨"interactive", ["interactive"], .possible⟩, ⟨"r", ["recursive"], .plain⟩, ⟨"R", [], .plain⟩,
  ⟨"d", ["dir"], .plain⟩, ⟨"v", ["verbose"], .plain⟩,
  ⟨"one-file-system", ["one-file-system"], .plain⟩,
  ⟨"preserve-root", ["preserve-root"], .possible⟩,
  ⟨"no-preserve-root", ["no-preserve-root"], .plain⟩]

/-- Says how a file can be removed whose name was taken for an option. -/
def hintAtFile (c : Call) : List String → Action Unit
  | [] => return ()
  | arg :: args => do
    if arg.startsWith "-" && 1 < arg.length && (← facts? arg false).isSome then
      c.note ("Try '" ++ c.name ++ " ./" ++ arg ++ "' to remove the file " ++ quoted arg ++ ".\n")
    else hintAtFile c args

/-- Removes files and directories. -/
def rm : Program := fun c => do
  match Options.read removalChoices false c.args with
  | .error reason =>
    c.complain reason
    hintAtFile c c.args
    c.note ("Try '" ++ c.name ++ " --help' for more information.\n")
    return 1
  | .ok w =>
    match askingOf w with
    | .error reason => c.misused 1 reason
    | .ok (asking, isForced) =>
      let isDeep := w.has "r" || w.has "R"
      let count := w.operands.length
      if count = 0 then
        if isForced then return 0 else c.misused 1 "missing operand"
      else
        if asking = .once && (isDeep || 3 < count) then
          let question := "remove " ++ decimal count ++ " argument" ++ (if count = 1 then "" else "s") ++
            (if isDeep then " recursively" else "")
          if !(← c.confirm question) then return 0
        each (removeOperand c ⟨isForced, asking = .each, isDeep, w.has "d", w.has "v"⟩) 0 w.operands

/-- Removes a file. -/
def unlink : Program := fun c =>
  c.withWords [] fun w =>
    match w.operands with
    | [] => c.misused 1 "missing operand"
    | [path] => do
      match ← change (.removeFile path) with
      | none => return 0
      | some e => c.fail 1 ("cannot unlink " ++ quoted path ++ ": " ++ e.reason)
    | _ :: extra :: _ => c.misused 1 ("extra operand " ++ quoted extra)

/-! ### Empty directories -/

/-- Removes an empty directory and, if asked to, those above it. -/
def removeDirs (c : Call) (isVerbose ignoresFull isFirst : Bool) : List String → Action Nat
  | [] => return 0
  | path :: paths => do
    if isVerbose then say (c.name ++ ": removing directory, " ++ quoted path)
    match ← change (.removeDir path) with
    | none => removeDirs c isVerbose ignoresFull false paths
    | some e =>
      let link? ← if e = .notDirectory && path.endsWith "/" then facts? (dropSlashes path) false
        else pure none
      let leadsOn := link?.any (·.kind = .link) && (← isDir path)
      if ignoresFull && e = .notEmpty then return 0
      else c.fail 1 ("failed to remove " ++ (if isFirst then "" else "directory ") ++ quoted path ++
        ": " ++ (if leadsOn then "Symbolic link not followed" else e.reason))

/-- Removes empty directories. -/
def rmdir : Program := fun c =>
  c.withWords [⟨"p", ["parents"], .plain⟩, ⟨"v", ["verbose"], .plain⟩,
    ⟨"ignore-fail-on-non-empty", ["ignore-fail-on-non-empty"], .plain⟩] fun w =>
    if w.operands.isEmpty then c.misused 1 "missing operand"
    else each (fun path =>
      removeDirs c (w.has "v") (w.has "ignore-fail-on-non-empty") true
        (if w.has "p" then (ancestors path).reverse else [path])) 0 w.operands

end LuaBundler.Utility
