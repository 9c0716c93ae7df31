import LuaBundler.Utility.Copying
import LuaBundler.Utility.Listing

/-!
# Utilities: moving and linking files

Giving entries other names, and giving files more of them.
-/

namespace LuaBundler.Utility

open LuaBundler.Files LuaBundler.System LuaBundler.Text

/-! ### Moving -/

/-- How `mv` moves. -/
structure Moving where
  overwrites : Overwriting
  /-- Whether it is told of what is not overwritten. -/
  tellsKept : Bool
  onlyNewer : Bool
  backup? : Option Backup
  isVerbose : Bool

/-- Makes room for an entry that is moved. -/
def Moving.prepare (c : Call) (how : Moving) (source target : String) (f : Facts)
    (g? : Option Facts) : Action Preparation := do
  let some g := g? | return .ready none true
  if f.number = g.number && how.overwrites ≠ .never then
    return .over (← c.fail 1 (quoted source ++ " and " ++ quoted target ++ " are the same file"))
  if f.kind ≠ .dir && how.onlyNewer && f.modified ≤ g.modified then return .over 0
  match how.overwrites with
  | .never =>
    if how.tellsKept then return .over (← c.fail 1 ("not replacing " ++ quoted target))
    else return .over 0
  | .ask => if !(← c.confirm ("overwrite " ++ quoted target)) then return .over 1
  | .always => pure ()
  if how.backup?.isNone then
    if let some reason := obstacle? source target f (some g) then return .over (← c.fail 1 reason)
  match how.backup? with
  | some b => return .ready (← b.keep target) true
  | none => return .ready none false

/-- Moves an entry. -/
def moveEntry (c : Call) (how : Moving) (source target : String) : Action Nat := do
  match ← ask (.facts source false) with
  | .error e => c.fail 1 ("cannot stat " ++ quoted source ++ ": " ++ e.reason)
  | .ok f =>
    match ← ask (.facts target false) with
    | .error .notDirectory =>
      if target.endsWith "/" then move f none
      else c.fail 1 ("cannot stat " ++ quoted target ++ ": " ++ FileError.notDirectory.reason)
    | .error _ => move f none
    | .ok g => move f (some g)
where
  /-- Moves an entry to a place at which there is something or nothing. -/
  move (f : Facts) (g? : Option Facts) : Action Nat := do
    match ← how.prepare c source target f g? with
    | .over status => return status
    | .ready kept? _ =>
      match ← change (.rename source target) with
      | none =>
        if how.isVerbose then
          say ("renamed " ++ quoted source ++ " -> " ++ quoted target ++ backupNote kept?)
        return 0
      | some .invalidArgument =>
        c.fail 1 ("cannot move " ++ quoted source ++ " to a subdirectory of itself, " ++
          quoted target)
      | some e =>
        if f.kind = .dir && e = .notEmpty then
          c.fail 1 ("cannot overwrite " ++ quoted target ++ ": " ++ e.reason)
        else
          c.fail 1 ("cannot move " ++ quoted source ++ " to " ++ quoted target ++ ": " ++ e.reason)

/-- The options of `mv`. -/
def moveChoices : List Choice := [⟨"f", ["force"], .plain⟩, ⟨"i", ["interactive"], .plain⟩,
  ⟨"n", ["no-clobber"], .plain⟩, ⟨"u", [], .plain⟩, ⟨"update", ["update"], .possible⟩,
  ⟨"v", ["verbose"], .plain⟩, ⟨"Z", ["context"], .plain⟩, ⟨"debug", ["debug"], .plain⟩,
  ⟨"no-copy", ["no-copy"], .plain⟩,
  ⟨"strip-trailing-slashes", ["strip-trailing-slashes"], .plain⟩] ++ Targets.choices ++ Backup.choices

/-- How options say that entries are moved. -/
def Moving.read (w : Words) : Except String Moving := do
  let update ← updateOf w
  let asking := w.last? ["n", "f", "i"]
  return {
    overwrites := if asking = some "n" || update = "none" then .never
      else if asking = some "i" then .ask else .always
    tellsKept := asking = some "n", onlyNewer := update = "older", backup? := ← Backup.read w
    isVerbose := w.has "v" || w.has "debug" }

/-- Moves files and directories. -/
def mv : Program := fun c =>
  c.withWords moveChoices fun w => do
    match Moving.read w with
    | .error reason => c.misused 1 reason
    | .ok how =>
      match ← Targets.find w with
      | .error fault => c.complainOfFault fault
      | .ok t =>
        let t := givenSources w t
        if t.isInto then
          eachTarget c (moveEntry c how) [] [] 0 (t.sources.map fun s => (s, t.pathOf s))
        else each (fun s => moveEntry c how s t.target) 0 t.sources

/-! ### Linking -/

/-- How `ln` links. -/
structure Linking where
  isSymbolic : Bool
  isForced : Bool
  asks : Bool
  isRelative : Bool
  follows : Bool
  mayLinkDirs : Bool
  backup? : Option Backup
  isVerbose : Bool

/-- What a symbolic link holds that leads to a path from where the link is. -/
def relativeSource (source target : String) : Action String := do
  match ← resolve .none (parentOf target), ← resolve .none source with
  | .ok dir, .ok path => return relativePath dir path
  | _, _ => return source

/-- Makes room for a link. -/
def Linking.prepare (c : Call) (how : Linking) (source target : String) (source? : Option Facts) :
    Action Preparation := do
  if !how.isForced && !how.asks && how.backup?.isNone then return .ready none true
  else match ← facts? target false with
  | none => return .ready none true
  | some g =>
    if g.kind = .dir then
      return .over (← c.fail 1 (shown target ++ ": cannot overwrite directory"))
    if source?.map (·.number) = some g.number && (g.links = 1 || dropSlashes source = target) then
      return .over (← c.fail 1 (quoted source ++ " and " ++ quoted target ++ " are the same file"))
    if how.asks then
      if !(← c.confirm ("replace " ++ quoted target)) then return .over 1
    match how.backup? with
    | some b => return .ready (← b.keep target) true
    | none =>
      if !how.isSymbolic && source?.isNone then return .ready none false
      discard (change (.removeFile target))
      return .ready none true

/-- How it is complained of a link that cannot be made. -/
def Linking.complaint (how : Linking) (source target : String) (e : FileError) : String :=
  "failed to create " ++ (if how.isSymbolic then "symbolic" else "hard") ++ " link " ++ quoted target ++
    (if how.isSymbolic then (if source = "" || e = .nameTooLong then " -> " ++ quoted source else "")
      else if e = .exists || e = .noSpace then "" else " => " ++ quoted source) ++ ": " ++ e.reason

/-- Makes a link. -/
def makeLink (c : Call) (how : Linking) (source target : String) : Action Nat := do
  match ← ask (.facts source (how.follows || how.isSymbolic)) with
  | .error e =>
    if how.isSymbolic then make none
    else c.fail 1 ("failed to access " ++ quoted source ++ ": " ++ e.reason)
  | .ok f =>
    if !how.isSymbolic && f.kind = .dir && !how.mayLinkDirs then
      c.fail 1 (shown source ++ ": hard link not allowed for directory")
    else make (some f)
where
  /-- Makes a link to what is known, if it is there. -/
  make (source? : Option Facts) : Action Nat := do
    let held ← if how.isRelative then relativeSource source target else pure source
    match ← how.prepare c source target source? with
    | .over status => return status
    | .ready kept? _ =>
      let failure ← if !how.isSymbolic && source?.any (·.kind = .dir) then
          pure (some FileError.notPermitted)
        else change (if how.isSymbolic then .symlink held target else .link source target how.follows)
      match failure with
      | none =>
        if how.isVerbose then
          say ((match kept? with
            | some kept => quoted kept ++ " ~ "
            | none => "") ++ quoted target ++ (if how.isSymbolic then " -> " else " => ") ++
            quoted held)
        return 0
      | some e => c.fail 1 (how.complaint held target e)

/-- The options of `ln`. -/
def linkChoices : List Choice := [⟨"d", ["directory"], .plain⟩, ⟨"F", [], .plain⟩,
  ⟨"f", ["force"], .plain⟩, ⟨"i", ["interactive"], .plain⟩, ⟨"L", ["logical"], .plain⟩,
  ⟨"n", ["no-dereference"], .plain⟩, ⟨"P", ["physical"], .plain⟩, ⟨"r", ["relative"], .plain⟩,
  ⟨"s", ["symbolic"], .plain⟩, ⟨"v", ["verbose"], .plain⟩] ++ Targets.choices ++ Backup.choices

/-- The directory that links go into, with the other operands; or two paths; or what is wrong. -/
def linkTargets (w : Words) : Action (Except (String × Bool) Targets) := do
  let leadsToDir (path : String) : Action Bool := isDir path (!(w.has "n"))
  match w.get? "t", w.operands with
  | _, [] => return .error ("missing file operand", true)
  | some dir, sources =>
    if w.has "T" then
      return .error ("cannot combine --target-directory and --no-target-directory", false)
    else match ← ask (.facts dir true) with
      | .error e => return .error ("failed to access " ++ quoted dir ++ ": " ++ e.reason, false)
      | .ok g =>
        if g.kind = .dir then return .ok ⟨sources, dir, true⟩
        else return .error ("target " ++ quoted dir ++ " is not a directory", false)
  | none, [source] =>
    if w.has "T" then return .error ("missing destination file operand after " ++ quoted source, true)
    else return .ok ⟨[source], ".", true⟩
  | none, [source, target] =>
    if !(w.has "T") && (← leadsToDir target) then return .ok ⟨[source], target, true⟩
    else return .ok ⟨[source], target, false⟩
  | none, operands =>
    let target := operands.getLast?.getD ""
    if w.has "T" then return .error ("extra operand " ++ quoted (operands.getD 2 ""), true)
    else if ← leadsToDir target then return .ok ⟨operands.dropLast, target, true⟩
    else match ← ask (.facts target true) with
      | .error e => return .error ("target " ++ quoted target ++ ": " ++ e.reason, false)
      | .ok _ => return .error ("target " ++ quoted target ++ ": Not a directory", false)

/-- Makes links. -/
def ln : Program := fun c =>
  c.withWords linkChoices fun w => do
    match Backup.read w with
    | .error reason => c.misused 1 reason
    | .ok backup? =>
      let how : Linking := {
        isSymbolic := w.has "s", isForced := w.has "f" && w.last? ["f", "i"] = some "f"
        asks := w.last? ["f", "i"] = some "i", isRelative := w.has "r"
        follows := w.last? ["L", "P"] = some "L", mayLinkDirs := w.has "d" || w.has "F", backup?
        isVerbose := w.has "v" }
      if how.isRelative && !how.isSymbolic && !w.operands.isEmpty then
        c.fail 1 "cannot do --relative without --symbolic"
      else match ← linkTargets w with
        | .error fault => c.complainOfFault fault
        | .ok t => each (fun source => makeLink c how source (t.pathOf source)) 0 t.sources

/-- Gives a file one more name. -/
def link : Program := fun c =>
  c.withWords [] fun w => do
    match w.operands with
    | [source, target] =>
      match ← change (.link source target false) with
      | none => return 0
      | some e => c.fail 1 ("cannot create link " ++ quoted target ++ " to " ++ quoted source ++
          ": " ++ e.reason)
    | [] => c.misused 1 "missing operand"
    | [a] => c.misused 1 ("missing operand after " ++ quoted a)
    | _ :: _ :: extra :: _ => c.misused 1 ("extra operand " ++ quoted extra)

end LuaBundler.Utility
