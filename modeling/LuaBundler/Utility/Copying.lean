import LuaBundler.Utility.Entries

/-!
# Utilities: copying files

Copying files and directories. An entry is copied unless something is in the way: a directory in the
place of a file, the entry itself, or a file that is not to be overwritten.
-/

namespace LuaBundler.Utility

open LuaBundler.Files LuaBundler.System LuaBundler.Text

/-- What is done about a file that would be overwritten. -/
inductive Overwriting where
  | always
  | ask
  | never
  deriving DecidableEq

/-- How `cp` copies. -/
structure Copying where
  isDeep : Bool := false
  isForced : Bool := false
  overwrites : Overwriting := .always
  onlyNewer : Bool := false
  keepsMode : Bool := false
  /-- Whether links are copied as links, and whether those that are operands are. -/
  keepsLinks : Bool := false
  keepsOperandLinks : Bool := false
  links : Bool := false
  symlinks : Bool := false
  /-- Whether a file that is in the way is removed first. -/
  removesFirst : Bool := false
  withoutContents : Bool := false
  backup? : Option Backup := none
  isVerbose : Bool := false

/-- An operand that is being copied: what it is and where it goes, and the first directory that was
made for it, into which it must not be copied again. -/
structure CopyOperand where
  source : String
  target : String
  made? : Option Nat := none

/-- Copies what one number stands for to another. -/
def copyContents (source target : Nat) : Nat → Action (Option FileError)
  | 0 => return none
  | steps + 1 => do
    match ← readPiece source with
    | .error e => return some e
    | .ok bytes =>
      if bytes.size = 0 then return none
      else match ← writeBytes target bytes with
        | some e => return some e
        | none => copyContents source target steps

namespace Copying

/-- Gives a copy the mode and the time of what it is a copy of, if it is to have them. -/
def keepAttributes (how : Copying) (target : String) (f : Facts) : Action Unit :=
  if how.keepsMode then do
    discard (change (.setMode target f.mode))
    discard (change (.setTime target true f.modified))
  else return ()

/-- Why a file cannot be made: a missing one whose path ends like that of a directory is not taken
for a directory. -/
def targetError (target : String) (e : FileError) : FileError :=
  if e = .isDirectory && target.endsWith "/" then .notDirectory else e

/-- Copies a file that is no directory and no link. -/
def copyFile (c : Call) (how : Copying) (source target : String) (f : Facts) : Action Nat := do
  match ← ask (.open source { read := true }) with
  | .error e => c.fail 1 ("cannot open " ++ quoted source ++ " for reading: " ++ e.reason)
  | .ok number =>
    let opening : Opening :=
      { write := true, create := true, truncate := !how.withoutContents, mode := f.mode }
    let opened ← match ← ask (.open target opening) with
      | .error e =>
        if how.isForced then
          discard (change (.removeFile target))
          ask (.open target opening)
        else pure (.error e)
      | ok => pure ok
    match opened with
    | .error e =>
      discard (ask (.close number))
      c.fail 1 ("cannot create regular file " ++ quoted target ++ ": " ++ (targetError target e).reason)
    | .ok out =>
      let failure ← if how.withoutContents then pure none else copyContents number out maxSteps
      discard (ask (.close number))
      discard (ask (.close out))
      how.keepAttributes target f
      match failure with
      | none => return 0
      | some e => c.fail 1 ("error writing " ++ quoted target ++ ": " ++ e.reason)

/-- Copies a link as a link. -/
def copyLink (c : Call) (source target : String) : Action Nat := do
  match ← ask (.readLink source) with
  | .error e => c.fail 1 ("cannot read symbolic link " ++ quoted source ++ ": " ++ e.reason)
  | .ok text =>
    match ← change (.symlink text target) with
    | none => return 0
    | some e => c.fail 1 ("cannot create symbolic link " ++ quoted target ++ ": " ++ e.reason)

/-- Makes a link instead of a copy. A symbolic link leads to a path from its own directory, which is
the path of the source only in the working directory. -/
def linkInstead (c : Call) (how : Copying) (source target : String) : Action Nat := do
  if how.symlinks then
    let here ← facts? "." true
    let there ← facts? (parentOf target) true
    if !source.startsWith "/" && here.map (·.number) ≠ there.map (·.number) then
      c.fail 1 (shown target ++ ": can make relative symbolic links only in current directory")
    else match ← change (.symlink source target) with
      | none => return 0
      | some e => c.fail 1 ("cannot create symbolic link " ++ quoted target ++ " to " ++
          quoted source ++ ": " ++ e.reason)
  else match ← change (.link source target true) with
    | none => return 0
    | some e => c.fail 1 ("cannot create hard link " ++ quoted target ++ " to " ++ quoted source ++
        ": " ++ e.reason)

end Copying

/-- Whether an entry is in the way of another one, and how that is complained of. -/
def obstacle? (source target : String) (f : Facts) (g? : Option Facts) : Option String :=
  match g? with
  | none => none
  | some g =>
    if g.kind = .dir ∧ f.kind ≠ .dir then
      some ("cannot overwrite directory " ++ quoted target ++ " with non-directory")
    else if f.kind = .dir ∧ g.kind ≠ .dir then
      some ("cannot overwrite non-directory " ++ quoted target ++ " with directory " ++
        quoted source)
    else none

/-- How what is about to be put somewhere ends before it is begun. -/
inductive Preparation where
  | ready (kept? : Option String) (isNew : Bool)
  | over (status : Nat)

/-- Makes room for a copy: nothing may be in the way, and what is to be kept is kept. -/
def Copying.prepare (c : Call) (how : Copying) (source target : String) (f : Facts)
    (g? : Option Facts) : Action Preparation := do
  match g? with
  | none =>
    let isDangling := f.kind ≠ .link && (← facts? target false).any (·.kind = .link)
    if isDangling && f.kind = .file && !how.links && !how.symlinks then
      if how.removesFirst then
        discard (change (.removeFile target))
        return .ready none true
      else return .over (← c.fail 1 ("not writing through dangling symlink " ++ quoted target))
    else return .ready none true
  | some g =>
    if f.number = g.number && !(how.links && f.kind = .file) then
      return .over (← c.fail 1 (quoted source ++ " and " ++ quoted target ++ " are the same file"))
    else if f.kind ≠ .dir && how.onlyNewer && f.modified ≤ g.modified then return .over 0
    else
      if f.kind ≠ .dir && g.kind ≠ .dir then
        match how.overwrites with
        | .never => return .over 0
        | .ask => if !(← c.confirm ("overwrite " ++ quoted target)) then return .over 1
        | .always => pure ()
      if let some reason := obstacle? source target f (some g) then return .over (← c.fail 1 reason)
      if f.kind = .dir then return .ready none false
      match how.backup? with
      | some b => return .ready (← b.keep target) true
      | none =>
        if how.removesFirst || f.kind = .link ||
            ((how.links || how.symlinks) && (how.isForced || how.overwrites = .ask)) then
          discard (change (.removeFile target))
          if how.isVerbose && f.kind ≠ .link then say ("removed " ++ quoted target)
          return .ready none true
        else return .ready none false

/-- Copies an entry and, of a directory, all that is in it. -/
def copyEntry (c : Call) (how : Copying) :
    Nat → Bool → CopyOperand → String → String → Action Nat
  | 0, _, _, _, _ => return 1
  | depth + 1, isOperand, k, source, target => do
    let follow := !(how.keepsLinks || (isOperand && how.keepsOperandLinks))
    match ← ask (.facts source follow) with
    | .error e => c.fail 1 ("cannot stat " ++ quoted source ++ ": " ++ e.reason)
    | .ok f =>
      if f.kind = .dir && !how.isDeep then
        c.fail 1 ("-r not specified; omitting directory " ++ quoted source)
      else if f.kind = .dir && k.made? = some f.number then
        c.fail 1 ("cannot copy a directory, " ++ quoted k.source ++ ", into itself, " ++
          quoted k.target)
      else
        let seesLink := f.kind ≠ .file || how.symlinks || how.links || how.backup?.isSome ||
          how.removesFirst
        match ← ask (.facts target (!seesLink)) with
        | .error .notFound => copyNew depth k f none source target
        | .error e => c.fail 1 ("cannot stat " ++ quoted target ++ ": " ++ e.reason)
        | .ok g => copyNew depth k f (some g) source target
termination_by depth => 2 * depth
decreasing_by all_goals omega
where
  /-- Copies an entry to a place at which there is something or nothing. -/
  copyNew (depth : Nat) (k : CopyOperand) (f : Facts) (g? : Option Facts) (source target : String) :
      Action Nat := do
    match ← how.prepare c source target f g? with
    | .over status => return status
    | .ready kept? isNew =>
      let tell : Action Unit :=
        if how.isVerbose then say (quoted source ++ " -> " ++ quoted target ++ backupNote kept?)
        else return ()
      match f.kind with
      | .dir =>
        let failure ← if isNew then change (.makeDir target f.mode) else pure none
        match failure with
        | some e => c.fail 1 ("cannot create directory " ++ quoted target ++ ": " ++ e.reason)
        | none =>
          if isNew then tell
          let made? ← match k.made?, isNew with
            | none, true => pure ((← facts? target true).map (·.number))
            | made?, _ => pure made?
          match ← ask (.names source) with
          | .error e => c.fail 1 ("cannot access " ++ quoted source ++ ": " ++ e.reason)
          | .ok names =>
            let status ← each (fun name => copyEntry c how depth false { k with made? }
              (joinPath source name) (joinPath target name)) 0 names
            how.keepAttributes target f
            return status
      | .link =>
        tell
        Copying.copyLink c source target
      | .pipe =>
        tell
        match ← change (.makeQueue target f.mode) with
        | none => return 0
        | some e => c.fail 1 ("cannot create fifo " ++ quoted target ++ ": " ++ e.reason)
      | _ =>
        tell
        if how.links || how.symlinks then how.linkInstead c source target
        else how.copyFile c source target f
  termination_by 2 * depth + 1
  decreasing_by all_goals omega

/-- Does something with each of several sources and its target. What is named twice is done once;
what was just made is not overwritten. -/
def eachTarget (c : Call) (f : String → String → Action Nat) (done : List (String × Nat))
    (made : List Nat) (status : Nat) : List (String × String) → Action Nat
  | [] => return status
  | (source, target) :: rest => do
    let source? ← facts? source true
    let target? ← facts? target true
    let word := if source?.any (·.kind = .dir) then "directory " else "file "
    match source?, target? with
    | some s, some t =>
      if done.contains (source, s.number) then
        c.complain ("warning: source " ++ word ++ quoted source ++ " specified more than once")
        eachTarget c f done made status rest
      else if s.kind ≠ .dir && made.contains t.number then
        c.complain ("will not overwrite just-created " ++ quoted target ++ " with " ++ quoted source)
        eachTarget c f done made 1 rest
      else go s source target rest
    | some s, none => go s source target rest
    | none, _ =>
      let more ← f source target
      eachTarget c f done made (max status more) rest
termination_by pairs => 2 * pairs.length
decreasing_by all_goals grind
where
  /-- Does it and goes on. -/
  go (s : Facts) (source target : String) (rest : List (String × String)) : Action Nat := do
    let more ← f source target
    let made := match ← facts? target true with
      | some t => t.number :: made
      | none => made
    eachTarget c f ((source, s.number) :: done) made (max status more) rest
  termination_by 2 * rest.length + 1
  decreasing_by all_goals grind

/-- Makes the directories of a path below a directory. -/
def makeParents (c : Call) (isVerbose : Bool) (base : String) : List String → Action (Option String)
  | [] => return none
  | dir :: dirs => do
    let path := joinPath base dir
    match ← change (.makeDir path 0o777) with
    | none =>
      if isVerbose then say (dir ++ " -> " ++ path)
      makeParents c isVerbose base dirs
    | some .exists => makeParents c isVerbose base dirs
    | some e => return some ("cannot make directory " ++ quoted path ++ ": " ++ e.reason)

/-- The options of `cp`. -/
def copyChoices : List Choice := [⟨"a", ["archive"], .plain⟩, ⟨"d", [], .plain⟩,
  ⟨"f", ["force"], .plain⟩, ⟨"i", ["interactive"], .plain⟩, ⟨"H", [], .plain⟩,
  ⟨"l", ["link"], .plain⟩, ⟨"L", ["dereference"], .plain⟩, ⟨"n", ["no-clobber"], .plain⟩,
  ⟨"P", ["no-dereference"], .plain⟩, ⟨"p", [], .plain⟩, ⟨"preserve", ["preserve"], .possible⟩,
  ⟨"no-preserve", ["no-preserve"], .required⟩, ⟨"r", ["recursive"], .plain⟩, ⟨"R", [], .plain⟩,
  ⟨"s", ["symbolic-link"], .plain⟩, ⟨"u", [], .plain⟩, ⟨"update", ["update"], .possible⟩,
  ⟨"v", ["verbose"], .plain⟩, ⟨"x", ["one-file-system"], .plain⟩, ⟨"Z", ["context"], .possible⟩,
  ⟨"parents", ["parents"], .plain⟩, ⟨"remove-destination", ["remove-destination"], .plain⟩,
  ⟨"sparse", ["sparse"], .required⟩, ⟨"reflink", ["reflink"], .possible⟩,
  ⟨"attributes-only", ["attributes-only"], .plain⟩, ⟨"debug", ["debug"], .plain⟩,
  ⟨"copy-contents", ["copy-contents"], .plain⟩,
  ⟨"strip-trailing-slashes", ["strip-trailing-slashes"], .plain⟩] ++ Targets.choices ++ Backup.choices

/-- Which files an update overwrites: all, none, or older ones. -/
def updateOf (w : Words) : Except String String :=
  match w.last? ["u", "update"] with
  | none => .ok "all"
  | some key =>
    let text := if key = "u" then "" else (w.get? "update").getD ""
    if text = "" then .ok "older"
    else namedValue "--update" [["all"], ["none"], ["older"]] text

/-- The sources without slashes at their ends, if those are to be dropped. -/
def givenSources (w : Words) (t : Targets) : Targets :=
  if w.has "strip-trailing-slashes" then { t with sources := t.sources.map dropSlashes } else t

/-- How options say that files are copied. -/
def Copying.read (w : Words) : Except String Copying := do
  let isDeep := w.has "r" || w.has "R" || w.has "a"
  let links := w.last? ["L", "P", "d", "a", "H"]
  let keepsLinks := match links with
    | some "L" => false
    | some "H" => isDeep
    | some _ => true
    | none => isDeep
  let update ← updateOf w
  let backup? ← Backup.read w
  let asking := w.last? ["i", "n"]
  return {
    isDeep, isForced := w.has "f", onlyNewer := update = "older" && !w.has "n"
    overwrites := if asking = some "n" || update = "none" then .never
      else if asking = some "i" then .ask else .always
    keepsMode := w.has "p" || w.has "a" || w.has "preserve", keepsLinks
    keepsOperandLinks := keepsLinks && links ≠ some "H", links := w.has "l", symlinks := w.has "s"
    removesFirst := w.has "remove-destination", withoutContents := w.has "attributes-only", backup?
    isVerbose := w.has "v" || w.has "debug" }

/-- Copies files and directories. -/
def cp : Program := fun c =>
  c.withWords copyChoices fun w => do
    match Copying.read w with
    | .error reason => c.misused 1 reason
    | .ok how =>
      if w.has "n" then
        c.complain ("warning: behavior of -n is non-portable and may change in future; " ++
          "use --update=none instead")
      match ← Targets.find w with
      | .error fault => c.complainOfFault fault
      | .ok t =>
        let t := givenSources w t
        let copy (source target : String) : Action Nat :=
          copyEntry c how 10000 true { source, target } source target
        if !w.has "parents" then
          if t.isInto then eachTarget c copy [] [] 0 (t.sources.map fun s => (s, t.pathOf s))
          else each (fun s => copy s t.target) 0 t.sources
        else if !t.isInto then c.misused 1 "with --parents, the destination must be a directory"
        else each (fun source => do
          let below := String.ofList ((dropSlashes source).toList.dropWhile (· = '/'))
          if (← facts? source true).isNone then copy source (joinPath t.target below)
          else match ← makeParents c how.isVerbose t.target (ancestors below).dropLast with
            | some reason => c.fail 1 reason
            | none => copy source (joinPath t.target below)) 0 t.sources

end LuaBundler.Utility
