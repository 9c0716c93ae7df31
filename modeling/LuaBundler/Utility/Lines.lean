import LuaBundler.Text.Split
import LuaBundler.Utility.Streams

/-!
# Utilities: lines

Dropping repeated lines, cutting pieces out of lines, and putting lines of several files beside each
other.
-/

namespace LuaBundler.Utility

open LuaBundler.Files LuaBundler.System LuaBundler.Text

/-! ### Repeated lines -/

/-- The part of a line that it is compared by. -/
def comparedPart (w : Words) (line : String) : List Char :=
  let fields := ((w.get? "f").bind natural?).getD 0
  let cs := skipFields fields line.toList
  let cs := cs.drop (((w.get? "s").bind natural?).getD 0)
  let cs := match (w.get? "w").bind natural? with
    | some n => cs.take n
    | none => cs
  if w.has "i" then cs.map Char.toLower else cs
where
  /-- What follows some fields. -/
  skipFields : Nat → List Char → List Char
    | 0, cs => cs
    | n + 1, cs =>
      let isGap (c : Char) : Bool := c = ' ' || c = '\t'
      skipFields n ((cs.dropWhile isGap).dropWhile fun c => !isGap c)

/-- Runs of like lines. -/
def runsOf (same : String → String → Bool) (lines : List String) : List (List String) :=
  let runs := lines.foldl (fun runs l =>
    match runs with
    | (m :: ms) :: rest => if same m l then (l :: m :: ms) :: rest else [l] :: runs
    | _ => [l] :: runs) ([] : List (List String))
  (runs.map List.reverse).reverse

/-- How runs of like lines are set apart. -/
inductive GroupMark where
  | none
  | before
  | after
  | between
  | around

/-- The groups with empty lines where a mark says so. -/
def markGroups (mark : GroupMark) (groups : List (List String)) : List String :=
  match mark with
  | .none => groups.flatten
  | .before => groups.flatMap fun g => "" :: g
  | .after => groups.flatMap fun g => g ++ [""]
  | .between => [""].intercalate groups
  | .around => if groups.isEmpty then [] else "" :: groups.flatMap fun g => g ++ [""]

/-- The mark that an argument of an option names. -/
def readMark (option : String) (marks : List (String × GroupMark)) (text : String) :
    Except String GroupMark :=
  match (if text = "" then none else some (marks.filter fun m => text.isPrefixOf m.1)) with
  | none => .ok (((marks.find? fun m => m.1 = (if option = "--group" then "separate" else "none")).map
      (·.2)).getD .none)
  | some [m] => .ok m.2
  | some _ => .error ("invalid argument " ++ cited text ++ " for '" ++ option ++
      "'\nValid arguments are:" ++
      "".intercalate (marks.map fun m => "\n  - " ++ quoted m.1))

/-- How `uniq` works, as its options say. -/
structure UniqSettings where
  /-- The marks of repeated lines, if all of them are shown. -/
  repeated? : Option GroupMark := none
  /-- The marks of groups, if all lines are shown. -/
  group? : Option GroupMark := none

/-- Reads the options; a failure comes with whether it is one of how the options are used. -/
def uniqSettings (w : Words) : Except (String × Bool) UniqSettings := do
  for (key, what) in [("f", "fields to skip"), ("s", "bytes to skip"), ("w", "bytes to compare")] do
    match w.get? key with
    | some text =>
      if (natural? text).isNone then .error (text ++ ": invalid number of " ++ what, false)
    | none => pure ()
  let usage (e : Except String GroupMark) : Except (String × Bool) GroupMark :=
    e.mapError fun reason => (reason, true)
  let repeated? ← match w.last? ["D", "all-repeated"] with
    | some "D" => pure (some GroupMark.none)
    | some _ => (usage (readMark "--all-repeated" [("none", .none), ("prepend", .before),
        ("separate", .between)] ((w.get? "all-repeated").getD ""))).map some
    | none => pure none
  let group? ← (w.get? "group").mapM fun text => usage (readMark "--group" [("prepend", .before),
      ("append", .after), ("separate", .between), ("both", .around)] text)
  if group?.isSome && (w.has "c" || w.has "d" || repeated?.isSome || w.has "u") then
    .error ("--group is mutually exclusive with -c/-d/-D/-u", true)
  if w.has "c" && repeated?.isSome then
    .error ("printing all duplicated lines and repeat counts is meaningless", true)
  return { repeated?, group? }

/-- Drops lines that are like the one before. -/
def uniq : Program := fun c =>
  c.withWords [⟨"c", ["count"], .plain⟩, ⟨"d", ["repeated"], .plain⟩, ⟨"D", [], .plain⟩,
    ⟨"all-repeated", ["all-repeated"], .possible⟩, ⟨"group", ["group"], .possible⟩,
    ⟨"f", ["skip-fields"], .required⟩, ⟨"i", ["ignore-case"], .plain⟩,
    ⟨"s", ["skip-chars"], .required⟩, ⟨"u", ["unique"], .plain⟩,
    ⟨"w", ["check-chars"], .required⟩, ⟨"z", ["zero-terminated"], .plain⟩] fun w => do
  let ending := if w.has "z" then '\x00' else '\n'
  let path := w.operands.headD "-"
  match uniqSettings w, w.operands with
  | .error (reason, isUsage), _ => if isUsage then c.misused 1 reason else c.fail 1 reason
  | _, _ :: _ :: extra :: _ => c.misused 1 ("extra operand " ++ cited extra)
  | .ok k, _ =>
    match ← readFile path with
    | .error e => c.fail 1 ((if e = .isDirectory then "error reading " ++ quoted path
        else shown path) ++ ": " ++ e.reason)
    | .ok text =>
      let runs := runsOf (fun a b => comparedPart w a = comparedPart w b) (linesOf ending text)
      let runs := if w.has "d" || k.repeated?.isSome then runs.filter fun r => 1 < r.length else runs
      let runs := if w.has "u" then runs.filter fun r => r.length = 1 else runs
      let lines := match k.repeated?, k.group? with
        | some mark, _ | none, some mark => markGroups mark runs
        | none, none => runs.map fun r =>
          (if w.has "c" then padLeft 7 (decimal r.length) ++ " " else "") ++ r.headD ""
      let out := joinLines ending lines
      match w.operands[1]? with
      | none => c.finish out 0
      | some target =>
        match ← writeFile target out with
        | none => return 0
        | some e => c.fail 1 (shown target ++ ": " ++ e.reason)

/-! ### Pieces of lines -/

/-- A range of positions from one on; without an end, all that follow. -/
structure Range where
  first : Nat
  last : Option Nat

/-- Whether a range has a position. -/
def Range.has (r : Range) (n : Nat) : Bool :=
  r.first ≤ n && (match r.last with
    | some last => n ≤ last
    | none => true)

/-- A range that is being read: what was put down before it, whether it has a start and a dash, and
the digits that were read last. -/
structure RangeDraft where
  ranges : List Range := []
  start? : Option Nat := none
  hasDash : Bool := false
  digits : List Char := []

namespace RangeDraft

/-- How it is complained of positions, which are of fields or not. -/
def complaint (ofFields : Bool) (fields others : String) : String :=
  if ofFields then fields else others

/-- What is said if a position is zero. -/
def zeroComplaint (ofFields : Bool) : String :=
  complaint ofFields "fields are numbered from 1" "byte/character positions are numbered from 1"

/-- The number that the digits spell, unless it is too large. -/
def number (d : RangeDraft) (ofFields : Bool) : Except String (Option Nat) :=
  let text := String.ofList d.digits
  match natural? text with
  | none => .ok none
  | some n =>
    if n < 18446744073709551615 then .ok (some n)
    else .error (complaint ofFields ("field number " ++ cited text) ("byte/character offset " ++ cited text) ++
      " is too large")

/-- The draft after a dash. -/
def dash (d : RangeDraft) (ofFields : Bool) : Except String RangeDraft := do
  let start? ← d.number ofFields
  if d.hasDash then .error (complaint ofFields "invalid field range" "invalid byte or character range")
  else if start? = some 0 then .error (zeroComplaint ofFields)
  else return { d with start?, hasDash := true, digits := [] }

/-- The draft after the end of a range. -/
def close (d : RangeDraft) (ofFields : Bool) : Except String RangeDraft := do
  let last? ← d.number ofFields
  let put (r : Range) : RangeDraft := { ranges := d.ranges ++ [r] }
  if d.hasDash then
    let first := d.start?.getD 1
    match last? with
    | none =>
      if d.start?.isNone then .error "invalid range with no endpoint: -" else return put ⟨first, none⟩
    | some last =>
      if last < first then .error "invalid decreasing range" else return put ⟨first, some last⟩
  else match last? with
    | none | some 0 => .error (zeroComplaint ofFields)
    | some n => return put ⟨n, some n⟩

/-- Reads ranges from a text on. -/
def read (ofFields : Bool) : List Char → RangeDraft → Except String (List Range)
  | [], d => return (← d.close ofFields).ranges
  | c :: cs, d => do
    if c = '-' then read ofFields cs (← d.dash ofFields)
    else if c = ',' || c = ' ' || c = '\t' then read ofFields cs (← d.close ofFields)
    else if c.isDigit then read ofFields cs { d with digits := d.digits ++ [c] }
    else .error (complaint ofFields "invalid field value " "invalid byte/character position " ++
      cited (String.ofList (c :: cs)))

end RangeDraft

/-- Reads ranges; a failure is a complaint about what the positions are of. -/
def readRanges (ofFields : Bool) (text : String) : Except String (List Range) :=
  RangeDraft.read ofFields text.toList {}

/-- The elements of a list at chosen positions. -/
def chosen {α : Type} (ranges : List Range) (isRest : Bool) (xs : List α) : List α :=
  let picked (n : Nat) : Bool := ranges.any (·.has n) != isRest
  (xs.zip (List.range' 1 xs.length)).filterMap fun p => if picked p.2 then some p.1 else none

/-- Ranges in order, with those put together that overlap. -/
def mergedRanges (ranges : List Range) : List Range :=
  let sorted := ranges.mergeSort fun a b => decide (a.first ≤ b.first)
  (sorted.foldl (fun (found : List Range) r =>
    match found with
    | [] => [r]
    | last :: rest =>
      match last.last, r.last with
      | none, _ => found
      | some stop, some stop' =>
        if r.first ≤ stop then { last with last := some (max stop stop') } :: rest else r :: found
      | some stop, none =>
        if r.first ≤ stop then { last with last := none } :: rest else r :: found) []).reverse

/-- The ranges between ranges that are in order, from a position on. -/
def gapsBetween : Nat → List Range → List Range
  | n, [] => [⟨n, none⟩]
  | n, r :: rest =>
    let before := if n < r.first then [⟨n, some (r.first - 1)⟩] else []
    match r.last with
    | none => before
    | some last => before ++ gapsBetween (last + 1) rest

/-- The parts of a list in ranges, those that are empty left out. -/
def partsIn {α : Type} (ranges : List Range) (xs : List α) : List (List α) :=
  (ranges.map fun r =>
    let start := xs.drop (r.first - 1)
    match r.last with
    | none => start
    | some last => start.take (last + 1 - r.first)).filter fun part => !part.isEmpty

/-- Cuts pieces out of lines. -/
def cut : Program := fun c =>
  c.withWords [⟨"b", ["bytes"], .required⟩, ⟨"c", ["characters"], .required⟩,
    ⟨"d", ["delimiter"], .required⟩, ⟨"f", ["fields"], .required⟩, ⟨"n", [], .plain⟩,
    ⟨"s", ["only-delimited"], .plain⟩, ⟨"z", ["zero-terminated"], .plain⟩,
    ⟨"complement", ["complement"], .plain⟩,
    ⟨"output-delimiter", ["output-delimiter"], .required⟩] fun w =>
    let lists := w.options.filter fun o => o.1 = "b" || o.1 = "c" || o.1 = "f"
    let delimiter := (w.get? "d").getD "\t"
    match lists with
    | [] => c.misused 1 "you must specify a list of bytes, characters, or fields"
    | _ :: _ :: _ => c.misused 1 "only one list may be specified"
    | [(key, text)] =>
      let ofFields := key = "f"
      if 1 < delimiter.length then c.misused 1 "the delimiter must be a single character"
      else if !ofFields && (w.get? "d").isSome then
        c.misused 1 "an input delimiter may be specified only when operating on fields"
      else if !ofFields && w.has "s" then
        c.misused 1 "suppressing non-delimited lines makes sense\n\tonly when operating on fields"
      else match readRanges ofFields text with
        | .error reason => c.misused 1 reason
        | .ok ranges =>
          let d := delimiter.toList.headD '\x00'
          let between := (w.get? "output-delimiter").getD (if ofFields then String.singleton d else "")
          let ending := if w.has "z" then '\x00' else '\n'
          let isRest := w.has "complement"
          filter c w.files fun texts =>
            let lines := texts.flatMap (linesOf ending)
            joinLines ending (lines.filterMap fun line =>
              if ofFields then
                if line.toList.contains d then
                  some (between.intercalate ((chosen ranges isRest (splitOn d line.toList)).map
                    String.ofList))
                else if w.has "s" then none else some line
              else
                let merged := mergedRanges ranges
                let parts := partsIn (if isRest then gapsBetween 1 merged else merged) line.toList
                some (between.intercalate (parts.map String.ofList)))

/-! ### Lines beside each other -/

/-- The characters of a list of delimiters. -/
def delimitersOf : List Char → List String
  | [] => []
  | '\\' :: 'n' :: cs => "\n" :: delimitersOf cs
  | '\\' :: 't' :: cs => "\t" :: delimitersOf cs
  | '\\' :: '0' :: cs => "" :: delimitersOf cs
  | '\\' :: c :: cs => String.singleton c :: delimitersOf cs
  | c :: cs => String.singleton c :: delimitersOf cs

/-- Texts with delimiters between them, one after the other. -/
def withDelimiters (ds : List String) : Nat → List String → String
  | _, [] => ""
  | _, [t] => t
  | n, t :: ts => t ++ ds.getD (n % max 1 ds.length) "" ++ withDelimiters ds (n + 1) ts

/-- Lines of several texts beside each other. -/
def besides (ds : List String) : Nat → List (List String) → List String
  | 0, _ => []
  | fuel + 1, columns =>
    if columns.all (·.isEmpty) then []
    else withDelimiters ds 0 (columns.map fun l => l.headD "") :: besides ds fuel (columns.map (·.drop 1))

/-- Reads files in which the input is read once and shared. -/
def readColumns (c : Call) (ending : Char) : List String → Option (List String) →
    Action (Option (List (Option (List String))) × List String)
  | [], shared? => return (some [], shared?.getD [])
  | path :: paths, shared? => do
    if path = "-" then
      let lines ← match shared? with
        | some l => pure l
        | none => do
          match ← readRest 0 with
          | .ok text => pure (linesOf ending text)
          | .error _ => pure []
      let (rest, lines) ← readColumns c ending paths (some lines)
      return (rest.map (none :: ·), lines)
    else
      match ← readFile path with
      | .error e =>
        c.complainOf path e
        return (none, [])
      | .ok text =>
        let (rest, lines) ← readColumns c ending paths shared?
        return (rest.map (some (linesOf ending text) :: ·), lines)

/-- The columns of which several are dealt from one list of lines. -/
def dealColumns (columns : List (Option (List String))) (shared : List String) : List (List String) :=
  let count := (columns.filter (·.isNone)).length
  let dealt (k : Nat) : List String :=
    (shared.zip (List.range shared.length)).filterMap fun p =>
      if p.2 % max 1 count = k then some p.1 else none
  (columns.foldl (fun (out, k) col =>
    match col with
    | some lines => (out ++ [lines], k)
    | none => (out ++ [dealt k], k + 1)) (([] : List (List String)), 0)).1

/-- Puts lines of files beside each other. -/
def paste : Program := fun c =>
  c.withWords [⟨"d", ["delimiters"], .required⟩, ⟨"s", ["serial"], .plain⟩,
    ⟨"z", ["zero-terminated"], .plain⟩] fun w => do
  let text := (w.get? "d").getD "\t"
  let ending := if w.has "z" then '\x00' else '\n'
  let isOpen := (text.toList.reverse.takeWhile (· = '\\')).length % 2 = 1
  if isOpen then c.fail 1 ("delimiter list ends with an unescaped backslash: " ++ text)
  else
    let ds := delimitersOf text.toList
    let ds := if ds.isEmpty then [""] else ds
    match ← readColumns c ending w.files none with
    | (none, _) => return 1
    | (some columns, shared) =>
      let columns := dealColumns columns shared
      let lines := if w.has "s" then columns.map fun lines => withDelimiters ds 0 lines
        else besides ds ((columns.map (·.length)).foldl max 0 + 1) columns
      c.finish (joinLines ending lines) 0

end LuaBundler.Utility
