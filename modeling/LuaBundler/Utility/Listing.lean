import LuaBundler.Text.Split
import LuaBundler.Utility.Dates
import LuaBundler.Utility.Entries

/-!
# Utilities: looking at files

Where paths lead, what directories hold, and what is known of files.
-/

namespace LuaBundler.Utility

open LuaBundler.Files LuaBundler.System LuaBundler.Text

/-! ### Where paths lead -/

/-- Which names of a path have to be there. -/
inductive Demand where
  | all
  /-- All but the last one. -/
  | butLast
  | none
  deriving DecidableEq

/-- The names of a path. -/
def namesOf (path : String) : List String :=
  ((splitOn '/' path.toList).filter (· ≠ [])).map String.ofList

/-- A path from the root. -/
def absolute (names : List String) : String :=
  "/" ++ "/".intercalate names

/-- Follows the names of a path from the root, and links if asked to. -/
def resolveWithin (demand : Demand) (follows : Bool) : Nat → Nat → List String → List String →
    Action (Except FileError String)
  | 0, _, _, _ => return .error .tooManyLinks
  | _ + 1, _, here, [] => return .ok (absolute here)
  | steps + 1, links, here, name :: todo => do
    if name = "." then resolveWithin demand follows steps links here todo
    else if name = ".." then resolveWithin demand follows steps links here.dropLast todo
    else
      let path := absolute (here ++ [name])
      match ← ask (.facts path false) with
      | .error e =>
        if demand = .none ∨ (demand = .butLast ∧ todo = [] ∧ e = .notFound) then
          resolveWithin demand follows steps links (here ++ [name]) todo
        else return .error e
      | .ok f =>
        if f.kind = .link && follows then
          if 40 ≤ links then return .error .tooManyLinks
          else match ← ask (.readLink path) with
            | .error e => return .error e
            | .ok target =>
              resolveWithin demand follows steps (links + 1) (if target.startsWith "/" then [] else here)
                (namesOf target ++ todo)
        else if f.kind ≠ .dir ∧ todo ≠ [] ∧ demand ≠ .none ∧ !(← isDir path) then
          return .error .notDirectory
        else resolveWithin demand follows steps links (here ++ [name]) todo

/-- The path of the working directory. -/
def workingDir : Action String := do
  match ← ask .currentDir with
  | .ok path => return path
  | .error _ => return "/"

/-- Where a path leads, as a path from the root without links, unless those are not followed. -/
def resolve (demand : Demand) (path : String) (follows : Bool := true) :
    Action (Except FileError String) := do
  if path = "" then return .error .notFound
  else
    let start ← if path.startsWith "/" then pure [] else do pure (namesOf (← workingDir))
    let found ← resolveWithin demand follows 100000 0 start (namesOf path)
    match found with
    | .ok p =>
      if path.endsWith "/" ∧ demand ≠ .none then
        match ← ask (.facts p true) with
        | .ok f => return if f.kind = .dir then .ok p else .error .notDirectory
        | .error e => return if demand = .butLast then .ok p else .error e
      else return .ok p
    | e => return e

/-- Prints where links lead. -/
def readlink : Program := fun c =>
  c.withWords [⟨"f", ["canonicalize"], .plain⟩, ⟨"e", ["canonicalize-existing"], .plain⟩,
    ⟨"m", ["canonicalize-missing"], .plain⟩, ⟨"n", ["no-newline"], .plain⟩,
    ⟨"q", ["quiet", "silent"], .plain⟩, ⟨"s", [], .plain⟩, ⟨"v", ["verbose"], .plain⟩,
    ⟨"z", ["zero"], .plain⟩] fun w => do
    let demand? : Option Demand := match w.last? ["f", "e", "m"] with
      | some "f" => some .butLast
      | some "e" => some .all
      | some _ => some .none
      | none => none
    let ending := if w.has "n" && w.operands.length = 1 then "" else if w.has "z" then "\x00" else "\n"
    if w.operands.isEmpty then c.misused 1 "missing operand"
    else each (fun path => do
      let found ← match demand? with
        | some demand => resolve demand path
        | none => ask (.readLink path)
      match found with
      | .ok target => c.finish (target ++ ending) 0
      | .error e =>
        if w.has "v" then c.complainOf path e
        return 1) 0 w.operands

/-- A path from another one, both from the root. -/
def relativePath (dir path : String) : String :=
  let (ds, ps) := dropCommon (namesOf dir) (namesOf path)
  let names := ds.map (fun _ => "..") ++ ps
  if names = [] then "." else "/".intercalate names
where
  /-- Two paths without the names that both start with. -/
  dropCommon : List String → List String → List String × List String
    | a :: as, b :: bs => if a = b then dropCommon as bs else (a :: as, b :: bs)
    | as, bs => (as, bs)

/-- The directory that an option names, as a path from the root. -/
def namedDir (demand : Demand) (follows : Bool) (path? : Option String) :
    Action (Except (String × FileError) (Option String)) := do
  let some path := path? | return .ok none
  match ← resolve demand path follows with
  | .error e => return .error (path, e)
  | .ok dir =>
    if demand ≠ .all || (← isDir dir) then return .ok (some dir)
    else return .error (path, .notDirectory)

/-- Whether a path is a directory or below it. -/
def isBelow (dir path : String) : Bool :=
  (namesOf dir).isPrefixOf (namesOf path)

/-- Prints paths from the root without links. -/
def realpath : Program := fun c =>
  c.withWords [⟨"e", ["canonicalize-existing"], .plain⟩, ⟨"m", ["canonicalize-missing"], .plain⟩,
    ⟨"L", ["logical"], .plain⟩, ⟨"P", ["physical"], .plain⟩, ⟨"q", ["quiet"], .plain⟩,
    ⟨"s", ["strip", "no-symlinks"], .plain⟩, ⟨"z", ["zero"], .plain⟩,
    ⟨"to", ["relative-to"], .required⟩, ⟨"base", ["relative-base"], .required⟩] fun w => do
    let demand : Demand := match w.last? ["e", "m"] with
      | some "e" => .all
      | some _ => .none
      | none => .butLast
    let follows := !w.has "s"
    let base? := w.get? "base"
    if w.operands.isEmpty then c.misused 1 "missing operand"
    else match ← namedDir demand follows ((w.get? "to").or base?), ← namedDir demand follows base? with
    | .error (path, e), _ | .ok _, .error (path, e) =>
      c.complainOf path e
      return 1
    | .ok to?, .ok base? =>
      let isApart : Bool := match to?, base? with
        | some dir, some base => !isBelow base dir
        | _, _ => false
      each (fun path => do
        match ← resolve demand path follows with
        | .ok target =>
          let shows : Bool := match base? with
            | some base => isBelow base target && !isApart
            | none => true
          let text := match to? with
            | some dir => if shows then relativePath dir target else target
            | none => target
          c.finish (text ++ (if w.has "z" then "\x00" else "\n")) 0
        | .error e =>
          if w.has "q" then return 1 else do
            c.complainOf path e
            return 1) 0 w.operands

/-- Prints the working directory. -/
def pwd : Program := fun c =>
  c.withWords [⟨"L", ["logical"], .plain⟩, ⟨"P", ["physical"], .plain⟩] fun w => do
    let logical? ← match w.last? ["L", "P"], c.get? "PWD" with
      | some "L", some path => do
        let f ← facts? path true
        let g ← facts? "." true
        let isPlain := path.startsWith "/" && (namesOf path).all fun n => n != "." && n != ".."
        pure (if isPlain && f.isSome && f.map (·.number) == g.map (·.number) then some path else none)
      | _, _ => pure none
    match logical? with
    | some path => c.finish (path ++ "\n") 0
    | none =>
      match ← ask .currentDir with
      | .ok path => c.finish (path ++ "\n") 0
      | .error _ => c.fail 1 "couldn't find directory entry in '..' with matching i-node"

/-! ### Listing -/

/-- How `ls` lists. -/
structure ListStyle where
  showsHidden : Bool
  showsDots : Bool
  isLong : Bool
  ofDirs : Bool
  isDeep : Bool
  isReverse : Bool
  order : Option String
  marks : Option String
  withNumbers : Bool
  withCommas : Bool
  isQuoted : Bool
  follows : Bool

/-- The mark after the name of a file that tells its kind. -/
def kindMark (style : ListStyle) (f : Facts) : String :=
  match style.marks, f.kind with
  | some _, .dir => "/"
  | some "F", .link => "@"
  | some "F", .pipe => "|"
  | some "F", .file => if f.mode &&& 0o111 ≠ 0 then "*" else ""
  | _, _ => ""

/-- The letter of a kind of file. -/
def kindLetter : Kind → String
  | .file => "-"
  | .dir => "d"
  | .link => "l"
  | .device => "c"
  | .pipe => "p"

/-- A file that is listed: its name, its path, and what is known of it. -/
structure Entry where
  name : String
  path : String
  facts : Facts

/-- Entries in the order of a style. -/
def sortEntries (style : ListStyle) (es : List Entry) : List Entry :=
  let byName := es.mergeSort fun a b => a.name ≤ b.name
  let sorted := match style.order with
    | some "t" => byName.mergeSort fun a b => b.facts.modified ≤ a.facts.modified
    | some "S" => byName.mergeSort fun a b => b.facts.size ≤ a.facts.size
    | some _ => es
    | none => byName
  if style.isReverse then sorted.reverse else sorted

/-- How long ago a time is at most that is shown with the hour, in seconds: half a year. -/
def recentTime : Int := 31556952 / 2

/-- A time as it is listed: one that is not of the last half year is shown with the year. -/
def listedTime (now time : Int) : String :=
  let m := Moment.ofSeconds time
  m.written (if time ≤ now && now - recentTime < time then "%b %e %H:%M" else "%b %e  %Y")

/-- The time of a file's last change in seconds. -/
def changeTime (f : Facts) : Int :=
  clockStart + f.modified / 1000000

/-- The lines of entries. -/
def entryLines (style : ListStyle) (es : List Entry) : Action String := do
  let (now, _) ← timeNow
  let width (f : Entry → String) : Nat := (es.map fun e => (f e).length).foldl max 0
  let links := width fun e => decimal e.facts.links
  let sizes := width fun e => decimal e.facts.size
  let numbers := width fun e => decimal e.facts.number
  let mut out := ""
  let mut isFirst := true
  for e in es do
    let number := if style.withNumbers then padLeft numbers (decimal e.facts.number) ++ " " else ""
    let name := (if style.isQuoted then "\"" ++ e.name ++ "\"" else e.name) ++
      (if style.isLong && e.facts.kind = .link then "" else kindMark style e.facts)
    if style.isLong then
      let target ← if e.facts.kind = .link then do
          match ← ask (.readLink e.path) with
          | .ok t => pure (" -> " ++ t)
          | .error _ => pure ""
        else pure ""
      out := out ++ number ++ kindLetter e.facts.kind ++ Mode.letters e.facts.mode ++ " " ++
        padLeft links (decimal e.facts.links) ++ " root root " ++
        padLeft sizes (decimal e.facts.size) ++ " " ++ listedTime now (changeTime e.facts) ++ " " ++
        name ++ target ++ "\n"
    else if style.withCommas then
      out := out ++ (if isFirst then "" else ", ") ++ number ++ name
    else out := out ++ number ++ name ++ "\n"
    isFirst := false
  return if style.withCommas && !es.isEmpty then out ++ "\n" else out

/-- The entries of a directory. -/
def dirEntries (style : ListStyle) (dir : String) : Action (Except FileError (List Entry)) := do
  match ← ask (.names dir) with
  | .error e => return .error e
  | .ok names =>
    let names := (if style.showsDots then [".", ".."] else []) ++
      names.filter fun n => style.showsHidden || !n.startsWith "."
    let mut es := []
    for name in names do
      let path := joinPath dir name
      match ← ask (.facts path false) with
      | .ok f =>
        let followed ← if style.follows then facts? path true else pure none
        es := { name, path, facts := followed.getD f } :: es
      | .error _ => pure ()
    return .ok (sortEntries style es.reverse)

/-- Lists a directory and, if asked to, the directories in it. -/
def listDir (c : Call) (style : ListStyle) (titled isFirst : Bool) :
    Nat → String → Action Nat
  | 0, _ => return 1
  | depth + 1, dir => do
    match ← dirEntries style dir with
    | .error e => c.fail 2 ("cannot open directory " ++ quoted dir ++ ": " ++ e.reason)
    | .ok es =>
      let title := if titled then (if isFirst then "" else "\n") ++ shown dir ++ ":\n" else ""
      let total := if style.isLong then
          "total " ++ decimal ((es.map fun e => (e.facts.size + 4095) / 4096 * 4).foldl (· + ·) 0) ++
            "\n"
        else ""
      discard (write 1 (title ++ total ++ (← entryLines style es)))
      if style.isDeep then
        each (fun path => listDir c style true false depth path) 0
          ((es.filter fun e => e.facts.kind = .dir && e.name != "." && e.name != "..").map (·.path))
      else return 0

/-- Lists several directories one after the other. -/
def listDirs (c : Call) (style : ListStyle) (titled : Bool) :
    Bool → Nat → List String → Action Nat
  | _, status, [] => return status
  | isFirst, status, dir :: dirs => do
    let s ← listDir c style titled isFirst 10000 dir
    listDirs c style titled false (max status s) dirs

/-- Takes operands apart into files and directories; it is complained of those that are missing. -/
def operandEntries (c : Call) (style : ListStyle) :
    List String → Action (List Entry × List Entry × Nat)
  | [] => return ([], [], 0)
  | path :: paths => do
    let followed ← facts? path true
    let found ← ask (.facts path false)
    match found with
    | .error e =>
      c.complain ("cannot access " ++ quoted path ++ ": " ++ e.reason)
      let (files, dirs, _) ← operandEntries c style paths
      return (files, dirs, 2)
    | .ok f =>
      let follows := f.kind = .link && !style.isLong && style.marks ≠ some "F" || style.follows
      let f := if follows then followed.getD f else f
      let (files, dirs, status) ← operandEntries c style paths
      let e : Entry := ⟨path, path, f⟩
      if f.kind = .dir && !style.ofDirs then return (files, e :: dirs, status)
      else return (e :: files, dirs, status)

/-- Lists files and directories. -/
def ls : Program := fun c =>
  c.withWords [⟨"a", ["all"], .plain⟩, ⟨"A", ["almost-all"], .plain⟩, ⟨"C", [], .plain⟩,
    ⟨"color", ["color"], .possible⟩, ⟨"d", ["directory"], .plain⟩, ⟨"f", [], .plain⟩,
    ⟨"F", ["classify"], .plain⟩, ⟨"g", [], .plain⟩, ⟨"h", ["human-readable"], .plain⟩,
    ⟨"H", [], .plain⟩, ⟨"i", ["inode"], .plain⟩, ⟨"l", [], .plain⟩, ⟨"L", ["dereference"], .plain⟩,
    ⟨"m", [], .plain⟩, ⟨"n", ["numeric-uid-gid"], .plain⟩, ⟨"N", ["literal"], .plain⟩,
    ⟨"o", [], .plain⟩, ⟨"p", [], .plain⟩, ⟨"q", [], .plain⟩, ⟨"Q", ["quote-name"], .plain⟩,
    ⟨"r", ["reverse"], .plain⟩, ⟨"R", ["recursive"], .plain⟩, ⟨"s", ["size"], .plain⟩,
    ⟨"S", [], .plain⟩, ⟨"t", [], .plain⟩, ⟨"U", [], .plain⟩, ⟨"u", [], .plain⟩, ⟨"x", [], .plain⟩,
    ⟨"1", [], .plain⟩, ⟨"group-directories-first", ["group-directories-first"], .plain⟩] (fun w => do
    let isLong := w.has "l" || w.has "g" || w.has "n" || w.has "o"
    let style : ListStyle := {
      showsHidden := w.has "a" || w.has "A" || w.has "f", showsDots := w.has "a" || w.has "f", isLong
      ofDirs := w.has "d", isDeep := w.has "R", isReverse := w.has "r"
      order := if w.has "f" then some "U" else w.last? ["t", "S", "U"]
      marks := w.last? ["F", "p"]
      withNumbers := w.has "i", withCommas := w.has "m" && !isLong, isQuoted := w.has "Q"
      follows := w.has "L" }
    let paths := if w.operands.isEmpty then ["."] else w.operands
    let (files, dirs, status) ← operandEntries c style paths
    let files := sortEntries style files
    let dirs := sortEntries style dirs
    if !files.isEmpty then discard (write 1 (← entryLines style files))
    let titled := 1 < paths.length || style.isDeep
    listDirs c style titled files.isEmpty status (dirs.map (·.path))) 2

/-! ### Facts -/

/-- The name of a kind of file. -/
def kindName (f : Facts) : String :=
  match f.kind with
  | .file => if f.size = 0 then "regular empty file" else "regular file"
  | .dir => "directory"
  | .link => "symbolic link"
  | .device => "character special file"
  | .pipe => "fifo"

/-- The bits that tell the kind of a file. -/
def kindBits : Kind → Nat
  | .file => 0x8000
  | .dir => 0x4000
  | .link => 0xa000
  | .device => 0x2000
  | .pipe => 0x1000

/-- What a letter of a format of `stat` stands for. -/
def factText (path : String) (target : String) (f : Facts) (letter : Char) : String :=
  match letter with
  | 'n' => path
  | 'N' => quoted path ++ (if f.kind = .link then " -> " ++ quoted target else "")
  | 's' => decimal f.size
  | 'F' => kindName f
  | 'a' => String.ofList (Nat.toDigits 8 f.mode)
  | 'A' => kindLetter f.kind ++ Mode.letters f.mode
  | 'h' => decimal f.links
  | 'i' => decimal f.number
  | 'u' | 'g' => "0"
  | 'U' | 'G' => "root"
  | 'b' => decimal ((f.size + 4095) / 4096 * 8)
  | 'B' => "512"
  | 'o' => "4096"
  | 'X' | 'Y' | 'Z' => integerText (changeTime f)
  | 'W' => integerText (changeTime f)
  | 'x' | 'y' | 'z' | 'w' =>
    (Moment.ofSeconds (changeTime f) ((f.modified % 1000000).toNat * 1000)).written
      "%Y-%m-%d %H:%M:%S.%N %z"
  | 'd' => "1"
  | 'f' => String.ofList (Nat.toDigits 16 (kindBits f.kind + f.mode))
  | 't' | 'T' => "0"
  | '%' => "%"
  | c => "?" ++ String.singleton c

/-- A format of `stat` filled in. -/
def fillFormat (fact : Char → String) (escapes : Bool) : Nat → List Char → String
  | 0, _ => ""
  | _ + 1, [] => ""
  | fuel + 1, '%' :: c :: cs => fact c ++ fillFormat fact escapes fuel cs
  | fuel + 1, '\\' :: c :: cs =>
    (if escapes then (match c with
      | 'n' => "\n"
      | 't' => "\t"
      | c => String.singleton c) else "\\" ++ String.singleton c) ++ fillFormat fact escapes fuel cs
  | fuel + 1, c :: cs => String.singleton c ++ fillFormat fact escapes fuel cs

/-- What `stat` shows if nothing else is asked for. -/
def usualFacts : String :=
  "  File: %N\\n  Size: %s\\tBlocks: %b\\tIO Block: %o   %F\\nAccess: (0%a/%A)\\n"

/-- Shows what is known of a file. -/
def showFacts (c : Call) (w : Words) (path : String) : Action Nat := do
  match ← ask (.facts path (w.has "L")) with
  | .error e =>
    c.fail 1 ("cannot " ++ (if w.has "L" then "stat " else "statx ") ++ quoted path ++ ": " ++
      e.reason)
  | .ok f =>
    let target ← if f.kind = .link then do
        match ← ask (.readLink path) with
        | .ok t => pure t
        | .error _ => pure ""
      else pure ""
    let fill (escapes : Bool) (format : String) : String :=
      fillFormat (factText path target f) escapes (format.length + 1) format.toList
    match w.get? "c", w.get? "printf" with
    | some format, _ => c.finish (fill false format ++ "\n") 0
    | none, some format => c.finish (fill true format) 0
    | none, none => c.finish (fill true usualFacts) 0

/-- Shows what is known of files. -/
def stat : Program := fun c =>
  c.withWords [⟨"c", ["format"], .required⟩, ⟨"printf", ["printf"], .required⟩,
    ⟨"L", ["dereference"], .plain⟩, ⟨"t", ["terse"], .plain⟩, ⟨"f", ["file-system"], .plain⟩] fun w =>
    if w.operands.isEmpty then c.misused 1 "missing operand"
    else each (showFacts c w) 0 w.operands

end LuaBundler.Utility
