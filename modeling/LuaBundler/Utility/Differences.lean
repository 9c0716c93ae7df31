import LuaBundler.Utility.Calendar
import LuaBundler.Utility.Difference
import LuaBundler.Utility.Find
import LuaBundler.Utility.LineSource

/-!
# Utilities: differences of files

Printing how files differ line by line, in one of several styles, and how directories do.
-/

namespace LuaBundler.Utility

open LuaBundler.Files LuaBundler.System LuaBundler.Text

/-! ### What is asked for -/

/-- How differences are written. -/
inductive DifferenceStyle where
  | normal
  /-- With so many lines around changes: one column for both files. -/
  | unified (context : Nat)
  /-- With so many lines around changes: one file after the other. -/
  | context (context : Nat)
  /-- As commands for an editor. -/
  | commands
  /-- As commands with numbers of lines. -/
  | counts
  deriving DecidableEq

/-- Which blanks of lines do not count. -/
inductive BlankRule where
  | exact
  | endsIgnored
  | changesIgnored
  | allIgnored
  deriving DecidableEq

/-- How files are compared. -/
structure Comparison where
  style : DifferenceStyle := .normal
  blanks : BlankRule := .exact
  ignoresCase : Bool := false
  ignoresEmptyLines : Bool := false
  dropsReturns : Bool := false
  asText : Bool := false
  isBrief : Bool := false
  tellsSame : Bool := false
  isRecursive : Bool := false
  /-- Whether missing files are taken for empty ones: all of them, or those of the first directory. -/
  absentAsEmpty : Bool := false
  firstAbsentAsEmpty : Bool := false
  excluded : List String := []
  labels : List String := []
  /-- The words of the options. -/
  spelled : List String := []

/-- One of two files that are compared. -/
structure Version where
  /-- What it is called. -/
  name : String
  /-- What stands in the heading. -/
  heading : String
  text : String := ""

namespace Version

/-- The lines. -/
def lines (v : Version) : Array String :=
  (linesOf '\n' v.text).toArray

/-- Whether the last line has no end. -/
def isCut (v : Version) : Bool :=
  !endsLine '\n' v.text

end Version

/-! ### Comparing lines -/

namespace Comparison

/-- Whether a character is a blank. -/
def isBlank (c : Char) : Bool :=
  " \t\x0b\x0c\r".toList.contains c

/-- A line with its blanks put together: one for several, and none at the end. -/
def squeeze : List Char → List Char
  | [] => []
  | c :: cs =>
    if isBlank c then
      match squeeze cs with
      | [] => []
      | ' ' :: rest => ' ' :: rest
      | rest => ' ' :: rest
    else c :: squeeze cs

/-- What of a line counts. -/
def key (k : Comparison) (line : String) : String :=
  let cs := line.toList
  let cs := if k.ignoresCase then cs.map Char.toLower else cs
  String.ofList (match k.blanks with
    | .exact => cs
    | .endsIgnored => (cs.reverse.dropWhile isBlank).reverse
    | .changesIgnored => squeeze cs
    | .allIgnored => cs.filter fun c => !isBlank c)

/-- What of the lines of a file counts; an end that is missing is told apart if blanks are. -/
def keys (k : Comparison) (v : Version) : List String :=
  let keys := v.lines.toList.map k.key
  if v.isCut && k.blanks = .exact && k.style ≠ .commands then
    match keys.reverse with
    | [] => keys
    | last :: rest => (last.push '\n' :: rest).reverse
  else keys

/-- Numbers for texts: the same texts have the same number. -/
def numbered (texts : List String) : Array Nat :=
  let sorted := texts.zipIdx.mergeSort fun a b => decide (a.1 ≤ b.1)
  let (found, _) := sorted.foldl (fun (acc : List (Nat × Nat) × Option (String × Nat)) t =>
    let number := match acc.2 with
      | none => 0
      | some (text, n) => if text = t.1 then n else n + 1
    ((t.2, number) :: acc.1, some (t.1, number))) ([], none)
  found.foldl (fun a (i, n) => a.setIfInBounds i n) (Array.replicate texts.length 0)

/-- How many lines around changes are written. -/
def context (k : Comparison) : Nat :=
  match k.style with
  | .unified n | .context n => n
  | _ => 0

/-- How many texts two lists have in common at their starts. -/
def commonStart : List String → List String → Nat
  | a :: as, b :: bs => if a = b then commonStart as bs + 1 else 0
  | _, _ => 0

/-- What is left of two files without the lines that they have in common at the start and at the end;
as many of those as are written around changes are kept. -/
def innerArea (k : Comparison) (a b : Version) : Difference.Area :=
  let texts (v : Version) : List String :=
    let lines := v.lines.toList
    if v.isCut then lines.dropLast ++ [(lines.getLast?.getD "") ++ "\n"] else lines
  let first := texts a
  let second := texts b
  let start := commonStart first second - k.context
  let stop := if a.isCut ≠ b.isCut && k.style ≠ .commands then 0
    else commonStart (first.drop start).reverse (second.drop start).reverse - k.context
  ⟨start, first.length - stop, start, second.length - stop⟩

/-- The changes between two files. -/
def changes (k : Comparison) (a b : Version) : List Difference.Step :=
  let first := k.keys a
  let second := k.keys b
  let numbers := numbered (first ++ second)
  Difference.changes (numbers.extract 0 first.length)
    (numbers.extract first.length (first.length + second.length)) (k.innerArea a b)

/-- Whether only lines without text have been changed. -/
def isTrivial (k : Comparison) (a b : Array String) (c : Difference.Step) : Bool :=
  let isEmpty (line : String) : Bool := match k.blanks with
    | .exact => line = ""
    | _ => line.toList.all isBlank
  k.ignoresEmptyLines && (a.extract c.x (c.x + c.removed)).all isEmpty &&
    (b.extract c.y (c.y + c.added)).all isEmpty

end Comparison

/-! ### Writing differences -/

namespace Difference

/-- Two files with their lines. -/
structure Pair where
  first : Array String
  second : Array String
  /-- Whether the last lines have no ends. -/
  firstCut : Bool
  secondCut : Bool

/-- Lines with a mark before each. -/
def marked (mark : String) (lines : Array String) (isCut : Bool) (start count : Nat) : String :=
  let text := (lines.extract start (start + count)).foldl
    (fun s line => s ++ mark ++ line ++ "\n") ""
  if isCut && 0 < count && lines.size ≤ start + count then
    text ++ "\\ No newline at end of file\n"
  else text

/-- The numbers of the first and the last of some lines. -/
def rangeText (start count : Nat) : String :=
  if count ≤ 1 then decimal (start + count) else decimal (start + 1) ++ "," ++ decimal (start + count)

namespace Pair

/-- Removed lines. -/
def old (p : Pair) (mark : String) (c : Step) : String :=
  marked mark p.first p.firstCut c.x c.removed

/-- Added lines. -/
def new (p : Pair) (mark : String) (c : Step) : String :=
  marked mark p.second p.secondCut c.y c.added

/-- The letter of a change. -/
def letter (c : Step) : String :=
  if c.added = 0 then "d" else if c.removed = 0 then "a" else "c"

/-- A change by itself. -/
def normalText (p : Pair) (c : Step) : String :=
  rangeText c.x c.removed ++ letter c ++ rangeText c.y c.added ++ "\n" ++ p.old "< " c ++
    (if c.removed = 0 ∨ c.added = 0 then "" else "---\n") ++ p.new "> " c

/-- The lines that an editor is told to add; one with just a point needs a command of its own. -/
def typed : Bool → List String → String
  | isTyping, [] => if isTyping then ".\n" else ""
  | isTyping, line :: lines =>
    (if isTyping then "" else "a\n") ++
      (if line = "." then "..\n.\ns/.//\n" ++ typed false lines
      else line ++ "\n" ++ typed true lines)

/-- A change as commands for an editor. -/
def commandText (p : Pair) (c : Step) : String :=
  rangeText c.x c.removed ++ letter c ++ "\n" ++
    if c.added = 0 then "" else typed true (p.second.extract c.y (c.y + c.added)).toList

/-- A change as commands with numbers of lines. -/
def countText (p : Pair) (c : Step) : String :=
  (if c.removed = 0 then "" else "d" ++ decimal (c.x + 1) ++ " " ++ decimal c.removed ++ "\n") ++
    if c.added = 0 then ""
    else "a" ++ decimal (c.x + c.removed) ++ " " ++ decimal c.added ++ "\n" ++
      cutText (p.second.extract c.y (c.y + c.added)).toList
        (p.secondCut && p.second.size ≤ c.y + c.added)
where
  /-- Lines with their ends, the last one without if it has none. -/
  cutText (lines : List String) (isCut : Bool) : String :=
    if isCut then "\n".intercalate lines else joinLines '\n' lines

/-- A line of both files. -/
def shared (p : Pair) (mark : String) (start count : Nat) : String :=
  marked mark p.first p.firstCut start count

end Pair

/-- Changes that are written together, and whether each of them counts. -/
abbrev Hunk := List (Step × Bool)

/-- Puts changes together that lie close to one another. -/
def hunks (context : Nat) : List (Step × Bool) → List Hunk
  | [] => []
  | c :: rest =>
    match hunks context rest with
    | [] => [[c]]
    | next :: others =>
      match next with
      | [] => [c] :: others
      | d :: _ =>
        let gap := d.1.x - (c.1.x + c.1.removed)
        if gap < (if c.2 && d.2 then 2 * context + 1 else context) then (c :: next) :: others
        else [c] :: next :: others

/-- The lines that a hunk spans in a file: the first one and how many, with lines around it. -/
def spanOf (context start stop size : Nat) : Nat × Nat :=
  let first := start - context
  (first, min (stop + context) size - first)

namespace Hunk

/-- The first and the last change. -/
def ends (h : Hunk) : Option (Step × Step) :=
  match h.head?, h.getLast? with
  | some a, some b => some (a.1, b.1)
  | _, _ => none

/-- The lines of both files that a hunk spans. -/
def spans (h : Hunk) (context : Nat) (p : Pair) : (Nat × Nat) × (Nat × Nat) :=
  match h.ends with
  | none => ((0, 0), (0, 0))
  | some (a, b) =>
    (spanOf context a.x (b.x + b.removed) p.first.size,
      spanOf context a.y (b.y + b.added) p.second.size)

/-- The lines of a hunk in one column, from a line of the first file on. -/
def columnText (p : Pair) (stop : Nat) : Nat → Hunk → String
  | i, [] => p.shared " " i (stop - i)
  | i, (c, _) :: rest =>
    p.shared " " i (c.x - i) ++ p.old "-" c ++ p.new "+" c ++
      columnText p stop (c.x + c.removed) rest

/-- The numbers of the lines of a hunk in one column. -/
def columnRange (span : Nat × Nat) : String :=
  match span.2 with
  | 0 => decimal span.1 ++ ",0"
  | 1 => decimal (span.1 + 1)
  | n => decimal (span.1 + 1) ++ "," ++ decimal n

/-- A hunk in one column. -/
def unifiedText (h : Hunk) (context : Nat) (p : Pair) : String :=
  let (a, b) := h.spans context p
  "@@ -" ++ columnRange a ++ " +" ++ columnRange b ++ " @@\n" ++ columnText p (a.1 + a.2) a.1 h

/-- The lines of one file in a hunk, from a line on; `part` gives the lines that a change has there,
and how many lines it has in the other file. -/
def sideText (lines : Array String) (isCut : Bool) (mark : String) (part : Step → Nat × Nat × Nat)
    (stop : Nat) : Nat → Hunk → String
  | i, [] => marked "  " lines isCut i (stop - i)
  | i, (c, _) :: rest =>
    let (start, count, others) := part c
    marked "  " lines isCut i (start - i) ++
      marked (if others = 0 then mark else "! ") lines isCut start count ++
      sideText lines isCut mark part stop (start + count) rest

/-- A hunk with one file after the other. -/
def contextText (h : Hunk) (context : Nat) (p : Pair) : String :=
  let (a, b) := h.spans context p
  "***************\n*** " ++ rangeText a.1 a.2 ++ " ****\n" ++
    (if h.all (·.1.removed = 0) then ""
    else sideText p.first p.firstCut "- " (fun c => (c.x, c.removed, c.added)) (a.1 + a.2) a.1 h) ++
    "--- " ++ rangeText b.1 b.2 ++ " ----\n" ++
    if h.all (·.1.added = 0) then ""
    else sideText p.second p.secondCut "+ " (fun c => (c.y, c.added, c.removed)) (b.1 + b.2) b.1 h

end Hunk

end Difference

namespace Comparison

/-- How two files differ: nothing if they do not. -/
def text (k : Comparison) (a b : Version) : String :=
  let pair : Difference.Pair := ⟨a.lines, b.lines, a.isCut, b.isCut⟩
  let all := (k.changes a b).map fun c => (c, !k.isTrivial pair.first pair.second c)
  let counting := (all.filter (·.2)).map (·.1)
  let headed (first second text : String) : String :=
    if text = "" then ""
    else first ++ " " ++ a.heading ++ "\n" ++ second ++ " " ++ b.heading ++ "\n" ++ text
  let hunks (context : Nat) : List Difference.Hunk :=
    (Difference.hunks context all).filter fun h => h.any (·.2)
  match k.style with
  | .normal => "".intercalate (counting.map pair.normalText)
  | .commands => "".intercalate (counting.reverse.map pair.commandText)
  | .counts => "".intercalate (counting.map pair.countText)
  | .unified n => headed "---" "+++" ("".intercalate ((hunks n).map fun h => h.unifiedText n pair))
  | .context n => headed "***" "---" ("".intercalate ((hunks n).map fun h => h.contextText n pair))

end Comparison

/-! ### Comparing files -/

/-- The state of a comparison of several files: what was gathered, and the status. -/
structure Outcome where
  output : Gathered := {}
  status : Nat := 0

namespace Outcome

/-- Prints a text about files that differ. -/
def tell (o : Outcome) (text : String) : Action Outcome := do
  return { output := ← o.output.put text, status := max o.status 1 }

/-- Complains. -/
def complain (o : Outcome) (c : Call) (reason : String) : Action Outcome := do
  let output ← o.output.flush
  c.complain reason
  return { output, status := 2 }

end Outcome

/-- Something that is compared: its path, and what is known of it if it is there. -/
structure Found where
  path : String
  facts? : Option Facts

namespace Found

/-- Whether it is a directory. -/
def isDir (f : Found) : Bool :=
  f.facts?.any (·.kind = .dir)

/-- What kind of file it is. -/
def kindText (f : Found) : String :=
  match f.facts? with
  | none => "regular empty file"
  | some facts => match facts.kind with
    | .file => if facts.size = 0 then "regular empty file" else "regular file"
    | .dir => "directory"
    | .link => "symbolic link"
    | .device => "character special file"
    | .pipe => "fifo"

end Found

namespace Comparison

/-- How many bytes tell whether a file is text. -/
def probeSize : Nat := 4096

/-- Whether a text has what no text file has at its start. -/
def isOdd (text : String) : Bool :=
  (text.toList.take probeSize).contains '\x00'

/-- The text of something that is compared. -/
def textOf (f : Found) : Action (Except FileError String) :=
  if f.facts?.isNone then return .ok "" else readFile f.path

/-- A file with what stands in the heading for it: a label, or its path and when it was changed. -/
def version (k : Comparison) (label? : Option String) (f : Found) (text : String) :
    Action Version := do
  let heading ← match label? with
    | some label => pure label
    | none => do
      let time : Int ← if f.path = "-" then do
          let now : Nat ← ask .now
          pure (now : Int)
        else pure ((f.facts?.map (·.modified)).getD (-clockStart * 1000000))
      let moment := Moment.ofSeconds (clockStart + time / 1000000) ((time % 1000000).toNat * 1000)
      let pattern := match k.style with
        | .context _ => "%a %b %e %T %Y"
        | _ => "%Y-%m-%d %H:%M:%S.%N %z"
      pure (f.path ++ "\t" ++ moment.written pattern)
  let dropReturn (line : String) : String :=
    if line.endsWith "\r" then String.ofList line.toList.dropLast else line
  let text := if k.dropsReturns then
      let lines := "\n".intercalate ((linesOf '\n' text).map dropReturn)
      if text ≠ "" && endsLine '\n' text then lines ++ "\n" else lines
    else text
  return { name := f.path, heading, text }

/-- Compares two files; `isNested` says whether they are in directories that are compared. -/
def files (k : Comparison) (c : Call) (isNested : Bool) (a b : Found) (o : Outcome) :
    Action Outcome := do
  let isSame := match a.facts?, b.facts? with
    | some f, some g => f.number = g.number && (a.path ≠ "-" || b.path = "-")
    | _, _ => false
  let nameOf (f : Found) (i : Nat) : String := k.labels.getD i f.path
  let same (o : Outcome) : Action Outcome := do
    if k.tellsSame then
      let text := "Files " ++ nameOf a 0 ++ " and " ++ nameOf b 1 ++ " are identical\n"
      return { o with output := ← o.output.put text }
    else return o
  if isSame then same o
  else match ← textOf a, ← textOf b with
  | .error e, .error e' =>
    (← o.complain c (shown a.path ++ ": " ++ e.reason)).complain c (shown b.path ++ ": " ++ e'.reason)
  | .error e, _ => o.complain c (shown a.path ++ ": " ++ e.reason)
  | _, .error e => o.complain c (shown b.path ++ ": " ++ e.reason)
  | .ok first, .ok second =>
    let isBinary := !k.asText && (isOdd first || isOdd second)
    let differ (kind : String) : String :=
      kind ++ " " ++ nameOf a 0 ++ " and " ++ nameOf b 1 ++ " differ\n"
    if isBinary then
      if first = second then same o
      else o.tell (differ (if k.isBrief then "Files" else "Binary files"))
    else
      let v ← k.version (k.labels.head?) a first
      let w ← k.version ((k.labels.drop 1).head?) b second
      let text := k.text v w
      let heading := if isNested then
          let words := "diff" :: k.spelled.map shown ++ [shown (nameOf a 0), shown (nameOf b 1)]
          " ".intercalate words ++ "\n"
        else ""
      let o ← if text = "" then same o
        else o.tell (if k.isBrief then differ "Files" else heading ++ text)
      let cut := if k.style = .commands then [(a, 0, v), (b, 1, w)].filter fun x => x.2.2.isCut
        else []
      cut.foldlM (fun o x =>
        o.complain c (nameOf x.1 x.2.1 ++ ": No newline at end of file\n")) o

/-- Tells that a file is in one of two directories only. -/
def onlyIn (dir name : String) (o : Outcome) : Action Outcome :=
  o.tell ("Only in " ++ dir ++ ": " ++ name ++ "\n")

/-- Names in order. -/
def sortedNames (names : List String) : List String :=
  names.mergeSort fun a b => decide (a ≤ b)

/-- What is known of a file in a directory that is compared; a name that is not there stands for
nothing. -/
def inside (dir : Found) (name : String) (isThere : Bool) : Action Found := do
  let path := joinPath dir.path name
  return { path, facts? := ← if isThere then facts? path true else pure none }

/-- The names in a directory. -/
def namesIn (f : Found) : Action (Except FileError (List String)) :=
  if f.isDir then ask (.names f.path) else return .ok []

/-- Compares what is in two directories name by name, both of a name in a given way. -/
def dirs (k : Comparison) (c : Call) (compare : Found → Found → Outcome → Action Outcome)
    (a b : Found) (o : Outcome) : Action Outcome := do
  match ← namesIn a, ← namesIn b with
  | .ok first, .ok second =>
    let names := (sortedNames (first ++ second.filter fun n => !first.contains n)).filter fun n =>
      !k.excluded.any fun p => Criterion.matchesName p false n
    names.foldlM (fun o name => do
      let isFirst := first.contains name
      let isSecond := second.contains name
      if isFirst && !isSecond && !k.absentAsEmpty then onlyIn a.path name o
      else if isSecond && !isFirst && !(k.absentAsEmpty || k.firstAbsentAsEmpty) then
        onlyIn b.path name o
      else compare (← inside a name isFirst) (← inside b name isSecond) o) o
  | .error e, _ => o.complain c (shown a.path ++ ": " ++ e.reason)
  | _, .error e => o.complain c (shown b.path ++ ": " ++ e.reason)

/-- Compares two files or directories; `isNested` says whether they are in directories that are
compared. -/
def pairs (k : Comparison) (c : Call) : Nat → Bool → Found → Found → Outcome → Action Outcome
  | 0, _, _, _, o => return o
  | depth + 1, isNested, a, b, o => do
    let isPlain (f : Found) : Bool := f.facts?.all (·.kind = .file)
    let isSame : Bool := match a.facts?, b.facts? with
      | some f, some g => f.number = g.number
      | _, _ => false
    let isWhole := (a.isDir && b.isDir) ||
      k.isRecursive && ((a.isDir && b.facts?.isNone) || (b.isDir && a.facts?.isNone))
    if isWhole then
      if isNested && !k.isRecursive then
        let text := "Common subdirectories: " ++ a.path ++ " and " ++ b.path ++ "\n"
        return { o with output := ← o.output.put text }
      else if isSame then return o
      else k.dirs c (pairs k c depth true) a b o
    else if a.isDir || b.isDir || (isNested && !(isPlain a && isPlain b)) then
      let nameOf (f : Found) (i : Nat) : String := k.labels.getD i f.path
      o.tell ("File " ++ nameOf a 0 ++ " is a " ++ a.kindText ++ " while file " ++ nameOf b 1 ++
        " is a " ++ b.kindText ++ "\n")
    else k.files c isNested a b o

end Comparison

/-- Compares two operands. -/
def compareOperands (c : Call) (k : Comparison) (a b : String) : Action Nat := do
  let lookUp (path : String) : Action (Except FileError Facts) :=
    if path = "-" then ask (.openFacts 0) else ask (.facts path true)
  let x ← lookUp a
  let y ← lookUp b
  let allowed (x : Except FileError Facts) : Bool := match x with
    | .error .notFound => true
    | _ => false
  let mayMiss (isFirst : Bool) : Bool :=
    k.absentAsEmpty || (isFirst && k.firstAbsentAsEmpty)
  match x, y with
  | .ok f, .ok g =>
    let (a, b, isMixed) :=
      if f.kind = .dir && g.kind ≠ .dir then (joinPath a (lastName b), b, true)
      else if g.kind = .dir && f.kind ≠ .dir then (a, joinPath b (lastName a), true)
      else (a, b, false)
    if isMixed && (a = "-" || b = "-") then c.fail 2 "cannot compare '-' to a directory"
    else
      match ← if isMixed then lookUp a else pure x, ← if isMixed then lookUp b else pure y with
      | .ok f, .ok g => finished (← k.pairs c 100 false ⟨a, some f⟩ ⟨b, some g⟩ {})
      | x, y => failed a x b y
  | .ok f, .error e =>
    if mayMiss false && allowed y then finished (← k.pairs c 100 false ⟨a, some f⟩ ⟨b, none⟩ {})
    else failed a x b (.error e)
  | .error e, .ok g =>
    if mayMiss true && allowed x then finished (← k.pairs c 100 false ⟨a, none⟩ ⟨b, some g⟩ {})
    else failed a (.error e) b y
  | x, y => failed a x b y
where
  /-- Ends. -/
  finished (o : Outcome) : Action Nat :=
    o.output.finish c o.status 2
  /-- Complains of what is not there. -/
  failed (a : String) (x : Except FileError Facts) (b : String) (y : Except FileError Facts) :
      Action Nat := do
    for (path, found) in [(a, x), (b, y)] do
      match found with
      | .error e => c.complain (shown path ++ ": " ++ e.reason)
      | .ok _ => pure ()
    return 2

/-- Complains of how it is called. -/
def diffMisused (c : Call) (reason : String) : Action Nat := do
  c.complain reason
  c.complain ("Try '" ++ c.name ++ " --help' for more information.")
  return 2

/-- The options. -/
def diffChoices : List Choice := [⟨"", ["normal"], .plain⟩, ⟨"q", ["brief"], .plain⟩,
  ⟨"s", ["report-identical-files"], .plain⟩, ⟨"c", [], .plain⟩, ⟨"C", [], .required⟩,
  ⟨"context", ["context"], .possible⟩,
  ⟨"u", [], .plain⟩, ⟨"U", [], .required⟩, ⟨"unified", ["unified"], .possible⟩, ⟨"e", ["ed"], .plain⟩, ⟨"n", ["rcs"], .plain⟩,
  ⟨"L", ["label"], .required⟩, ⟨"r", ["recursive"], .plain⟩, ⟨"N", ["new-file"], .plain⟩,
  ⟨"P", ["unidirectional-new-file"], .plain⟩, ⟨"x", ["exclude"], .required⟩,
  ⟨"i", ["ignore-case"], .plain⟩, ⟨"Z", ["ignore-trailing-space"], .plain⟩,
  ⟨"b", ["ignore-space-change"], .plain⟩, ⟨"w", ["ignore-all-space"], .plain⟩,
  ⟨"B", ["ignore-blank-lines"], .plain⟩, ⟨"a", ["text"], .plain⟩,
  ⟨"strip", ["strip-trailing-cr"], .plain⟩, ⟨"d", ["minimal"], .plain⟩,
  ⟨"H", ["speed-large-files"], .plain⟩, ⟨"color", ["color"], .possible⟩]

/-- The style that options ask for, if they do not ask for several. -/
def diffStyle? (w : Words) : Except String DifferenceStyle := do
  let lineCount (text : String) : Except String Nat :=
    match natural? (if text = "" then "3" else text) with
    | some n => .ok n
    | none => .error ("invalid context length '" ++ text ++ "'")
  let given ← w.options.filterMapM fun (key, value) => match key with
    | "u" => .ok (some (DifferenceStyle.unified 3))
    | "c" => .ok (some (DifferenceStyle.context 3))
    | "U" | "unified" => (lineCount value).map fun n => some (.unified n)
    | "C" | "context" => (lineCount value).map fun n => some (.context n)
    | "e" => .ok (some .commands)
    | "n" => .ok (some .counts)
    | "" => .ok (some .normal)
    | _ => .ok none
  given.foldlM (fun style next => match style, next with
    | .normal, next => .ok next
    | .unified m, .unified n => .ok (.unified (max m n))
    | .context m, .context n => .ok (.context (max m n))
    | style, next =>
      if style = next then .ok style else .error "conflicting output style options") .normal

/-- Compares files line by line. -/
def diff : Program := fun c =>
  match Options.read diffChoices false c.args with
  | .error reason => diffMisused c reason
  | .ok w =>
    match diffStyle? w with
    | .error reason => diffMisused c reason
    | .ok style =>
      match w.operands with
      | [a, b] =>
        let all (key : String) : List String := (w.options.filter (·.1 = key)).map (·.2)
        let labels := all "L"
        if 2 < labels.length then c.fail 2 "too many file label options"
        else compareOperands c {
          style, labels
          blanks := if w.has "w" then .allIgnored else if w.has "b" then .changesIgnored
            else if w.has "Z" then .endsIgnored else .exact
          ignoresCase := w.has "i", ignoresEmptyLines := w.has "B", dropsReturns := w.has "strip"
          asText := w.has "a", isBrief := w.has "q", tellsSame := w.has "s"
          isRecursive := w.has "r", absentAsEmpty := w.has "N", firstAbsentAsEmpty := w.has "P"
          excluded := all "x", spelled := w.spelled } a b
      | [] => diffMisused c ("missing operand after '" ++ c.args.getLast?.getD c.name ++ "'")
      | [a] => diffMisused c ("missing operand after '" ++ c.args.getLast?.getD a ++ "'")
      | _ :: _ :: extra :: _ => diffMisused c ("extra operand '" ++ extra ++ "'")

end LuaBundler.Utility
