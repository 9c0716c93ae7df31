import LuaBundler.Text.Split
import LuaBundler.Utility.Find
import LuaBundler.Utility.LineSource
import LuaBundler.Utility.Regex.Reader

/-!
# Utilities: searching files

Printing the lines of files that match one of several patterns, or what goes with them: the lines
around them, their numbers, the matches alone, or how many there are.
-/

namespace LuaBundler.Utility

open LuaBundler.Files LuaBundler.System LuaBundler.Text

/-! ### What is asked for -/

/-- How a search is made, and what is printed of it. -/
structure Search where
  patterns : List Regex.Compiled
  ending : Char := '\n'
  inverts : Bool := false
  counts : Bool := false
  /-- Whether names of files are printed, and whether those of files with or without matches. -/
  lists? : Option Bool := none
  quiet : Bool := false
  silent : Bool := false
  numbers : Bool := false
  offsets : Bool := false
  onlyMatches : Bool := false
  limit? : Option Nat := none
  before : Nat := 0
  after : Nat := 0
  hasContext : Bool := false
  separator? : Option String := some "--"
  /-- Whether files that are no text are taken for text, and whether they are passed over. -/
  binaryAsText : Bool := false
  skipsBinary : Bool := false
  nulNames : Bool := false
  /-- Whether lines start at a place that tabs lead to. -/
  aligns : Bool := false
  label : String := "(standard input)"

/-! ### Matching lines -/

/-- A match that starts earlier, or at the same place and is longer. -/
def betterMatch (a b : Nat × Nat) : Nat × Nat :=
  if a.1 < b.1 ∨ (a.1 = b.1 ∧ b.2 ≤ a.2) then a else b

/-- The first and longest match of a line from a position on. -/
def firstMatch? (patterns : List Regex.Compiled) (line : ByteArray) (start : Nat) :
    Option (Nat × Nat) :=
  patterns.foldl (fun best p =>
    match (p.search? line start false).bind fun m => m.getD 0 none, best with
    | none, best => best
    | some found, none => some found
    | some found, some best => some (betterMatch best found)) none

/-- The matches of a line that are not empty. -/
def allMatches (patterns : List Regex.Compiled) (line : ByteArray) :
    Nat → Nat → List (Nat × Nat)
  | 0, _ => []
  | steps + 1, start =>
    match firstMatch? patterns line start with
    | none => []
    | some (a, b) =>
      if a = b then allMatches patterns line steps (b + 1)
      else (a, b) :: allMatches patterns line steps b

/-! ### The state of a search -/

/-- The state of a search through files: what was gathered, whether a line was selected, whether
something failed, and whether a line was printed. -/
structure Tally where
  output : Gathered := {}
  hasFound : Bool := false
  hasFailed : Bool := false
  hasPrinted : Bool := false

/-- How far a search has come in a file. -/
structure Progress where
  output : Gathered
  /-- How wide numbers are at least. -/
  width : Nat := 0
  /-- Whether lines of other files were printed. -/
  hasPrinted : Bool := false
  number : Nat := 0
  offset : Nat := 0
  found : Nat := 0
  /-- The lines before the next match that may be printed, the last one first. -/
  pending : List (Nat × Nat × String) := []
  /-- How many lines are still to be printed after a match. -/
  trailing : Nat := 0
  /-- The number of the last line that was printed. -/
  printed? : Option Nat := none
  isBinary : Bool := false
  /-- Where the line that was selected last ends. -/
  selectedTo : Nat := 0
  /-- Whether the file need not be looked at any more. -/
  isDone : Bool := false

namespace Search

/-- What is printed before a line: the name of its file, its number and its offset. -/
def headOf (s : Search) (name? : Option String) (sign : Char) (width number offset : Nat)
    (text : String) : String :=
  let named := match name? with
    | some name => name ++ (if s.nulNames then "\x00" else String.singleton sign)
    | none => ""
  let told (n : Nat) : String := padLeft width (decimal n) ++ String.singleton sign
  let numbered := if s.numbers then told number else ""
  let placed := if s.offsets then told offset else ""
  let all := named ++ numbered ++ placed
  if s.aligns && all ≠ "" && text ≠ "" then all ++ "\t" else all

/-- Whether the lines of a search are printed. -/
def printsLines (s : Search) : Bool :=
  !s.quiet && !s.counts && s.lists?.isNone

/-- Prints what separates a line from lines that do not come just before it. -/
def separate (s : Search) (number : Nat) (p : Progress) : Action Progress := do
  let isApart := match p.printed? with
    | some last => last + 1 < number
    | none => p.hasPrinted
  match isApart && s.hasContext, s.separator? with
  | true, some separator => return { p with output := ← p.output.put (separator ++ "\n") }
  | _, _ => return p

/-- Prints a line. -/
def printLine (s : Search) (name? : Option String) (sign : Char) (p : Progress)
    (line : Nat × Nat × String) : Action Progress := do
  let (number, offset, text) := line
  let p ← s.separate number p
  let output ← p.output.put
    ((s.headOf name? sign p.width number offset text ++ text).push s.ending)
  return { p with output, printed? := some number }

/-- Prints several lines. -/
def printLines (s : Search) (name? : Option String) (sign : Char) :
    Progress → List (Nat × Nat × String) → Action Progress
  | p, [] => return p
  | p, line :: lines => do s.printLines name? sign (← s.printLine name? sign p line) lines

/-- Prints the matches of a line. -/
def printMatches (s : Search) (name? : Option String) (number offset : Nat) (line : ByteArray) :
    Progress → List (Nat × Nat) → Action Progress
  | p, [] => return p
  | p, (a, b) :: rest => do
    let text := octetsOfArray (line.extract a b)
    let output ← p.output.put
      ((s.headOf name? ':' p.width number (offset + a) text ++ text).push s.ending)
    s.printMatches name? number offset line { p with output, printed? := some number } rest

/-- What a search does with a line that is selected. -/
def select (s : Search) (name? : Option String) (p : Progress) (line : String)
    (bytes : ByteArray) : Action Progress := do
  let p := { p with found := p.found + 1, selectedTo := p.offset + line.length + 1 }
  let isLast := s.limit? = some p.found
  if !s.printsLines then
    return { p with isDone := isLast || s.quiet || s.lists?.isSome }
  else if p.isBinary then return { p with isDone := true }
  else
    let found := if s.onlyMatches then allMatches s.patterns bytes (bytes.size + 1) 0 else []
    let p ← match s.onlyMatches, s.inverts with
      | true, true => s.separate p.number p
      | true, false => do
        s.printMatches name? p.number p.offset bytes (← s.separate p.number p) found
      | false, _ => do
        let p ← s.printLines name? '-' p p.pending.reverse
        s.printLine name? ':' p (p.number, p.offset, line)
    return { p with pending := [], trailing := s.after, isDone := isLast && s.after = 0 }

/-- What a search does with a line that is not selected. -/
def passOver (s : Search) (name? : Option String) (p : Progress) (line : String) :
    Action Progress := do
  if !s.printsLines || s.onlyMatches then return p
  else if 0 < p.trailing then
    let p ← s.printLine name? '-' p (p.number, p.offset, line)
    let isLast := (s.limit?.map fun n => decide (n ≤ p.found)).getD false
    return { p with trailing := p.trailing - 1, isDone := isLast && p.trailing = 1 }
  else
    return { p with pending := ((p.number, p.offset, line) :: p.pending).take s.before }

/-- Goes through the lines of a source. -/
def throughLines (s : Search) (name? : Option String) :
    Nat → LineSource → Progress → Action (Except FileError Progress)
  | 0, _, p => return .ok p
  | steps + 1, source, p => do
    if p.isDone then return .ok p
    else match ← source.next with
    | .error e => return .error e
    | .ok (none, _) => return .ok p
    | .ok (some line, source) =>
      let isBinary := p.isBinary || (!s.binaryAsText &&
        (isOdd line.text || source.ready.any isOdd || isOdd source.started))
      let p := { p with isBinary, number := p.number + 1 }
      if isBinary && s.skipsBinary then return .ok { p with found := 0, isBinary := false }
      else
        let bytes := arrayOfOctets line.text
        let isFull := (s.limit?.map fun n => decide (n ≤ p.found)).getD false
        let isSelected := !isFull && (firstMatch? s.patterns bytes 0).isSome != s.inverts
        let p ← if isSelected then s.select name? p line.text bytes
          else s.passOver name? p line.text
        s.throughLines name? steps source { p with offset := p.offset + line.text.length + 1 }
where
  /-- Whether a text has what no text file has. -/
  isOdd (text : String) : Bool :=
    s.ending ≠ '\x00' && text.contains '\x00'

/-- How wide the numbers of a file are, so that its lines start at one place: as wide as its size
is. -/
def widthOf (s : Search) (number : Nat) : Action Nat := do
  if !s.aligns then return 0
  match ← ask (.openFacts number) with
  | .ok facts =>
    return if facts.kind = .file then
      (decimal (facts.size + (if s.numbers then 1 else 0))).length else 19
  | .error _ => return 19

/-- Goes back in the input to the end of the line that was selected last, for whoever reads on. -/
def goBack (s : Search) (number start : Nat) (p : Progress) : Action Unit := do
  if number = 0 ∧ s.limit? = some p.found then
    discard (ask (.seek 0 ((start + p.selectedTo : Nat) : Int) .start))

/-- Searches what a number stands for; `shownName` is its name and `name?` what its lines start
with. -/
def throughFile (s : Search) (c : Call) (shownName : String) (name? : Option String) (number : Nat)
    (t : Tally) : Action (Except FileError Tally) := do
  if s.limit? = some 0 then return .ok t
  let start ← if number = 0 then do
      match ← ask (.seek 0 0 .here) with
      | .ok start => pure start
      | .error _ => pure 0
    else pure 0
  let p : Progress :=
    { output := t.output, hasPrinted := t.hasPrinted, width := ← s.widthOf number }
  match ← s.throughLines name? maxSteps { number, ending := s.ending } p with
  | .error e => return .error e
  | .ok p =>
    s.goBack number start p
    let hasFound := p.found ≠ 0
    let head := match name? with
      | some name => name ++ (if s.nulNames then "\x00" else ":")
      | none => ""
    let output ← if s.quiet then pure p.output
      else match s.lists? with
        | some ofMatching =>
          if hasFound = ofMatching then
            p.output.put (shownName ++ (if s.nulNames then "\x00" else "\n"))
          else pure p.output
        | none =>
          if s.counts then p.output.put (head ++ decimal p.found ++ "\n")
          else if hasFound && p.isBinary then do
            let output ← p.output.flush
            c.complain (shownName ++ ": binary file matches")
            pure output
          else pure p.output
    return .ok { t with
      output, hasFound := t.hasFound || hasFound
      hasPrinted := t.hasPrinted || p.printed?.isSome }

end Search

/-! ### Files -/

/-- Which files are searched. -/
structure Reach where
  isRecursive : Bool := false
  followsLinks : Bool := false
  skipsDirs : Bool := false
  included : List String := []
  excluded : List String := []
  excludedDirs : List String := []
  /-- Whether lines start with the names of their files; unless it is said, those of files in
  directories do. -/
  withNames? : Option Bool := none

namespace Reach

/-- Whether a name is that of one of several patterns. -/
def matchesAny (patterns : List String) (name : String) : Bool :=
  patterns.any fun p => Criterion.matchesName p false name

/-- Whether a file is searched. -/
def hasFile (r : Reach) (path : String) : Bool :=
  (r.included.isEmpty || matchesAny r.included (lastName path)) &&
    !matchesAny r.excluded (lastName path)

end Reach

namespace Tally

/-- Complains of a file. -/
def complain (t : Tally) (c : Call) (s : Search) (path : String) (e : FileError) :
    Action Tally := do
  if s.silent then return { t with hasFailed := true }
  else
    let output ← t.output.flush
    c.complain (path ++ ": " ++ e.reason)
    return { t with output, hasFailed := true }

end Tally

/-- Searches an opened file. -/
def searchOpened (c : Call) (s : Search) (r : Reach) (isOperand : Bool) (path : String)
    (number : Nat) (t : Tally) : Action Tally := do
  let name := if path = "-" then s.label else path
  let name? := if r.withNames?.getD !isOperand then some name else none
  match ← s.throughFile c name name? number t with
  | .ok t => return t
  | .error e => t.complain c s name e

/-- Searches a file, or all files below a directory. -/
def searchPath (c : Call) (s : Search) (r : Reach) : Nat → Bool → String → Tally → Action Tally
  | 0, _, _, t => return t
  | depth + 1, isOperand, path, t => do
    if s.quiet && t.hasFound then return t
    else if path = "-" && isOperand then searchOpened c s r isOperand path 0 t
    else match ← ask (.facts path (isOperand || r.followsLinks)) with
    | .error e => t.complain c s path e
    | .ok facts =>
      if facts.kind = .dir then
        if r.isRecursive then
          if Reach.matchesAny r.excludedDirs (lastName path) then return t
          else match ← ask (.names path) with
            | .error e => t.complain c s path e
            | .ok names => names.foldlM (fun t name =>
                searchPath c s r depth false (joinPath path name) t) t
        else if r.skipsDirs then return t
        else t.complain c s path .isDirectory
      else if (!isOperand && facts.kind ≠ .file) || !r.hasFile path then return t
      else match ← ask (.open path { read := true }) with
        | .error e => t.complain c s path e
        | .ok number =>
          let t ← searchOpened c s r isOperand path number t
          discard (ask (.close number))
          return t

/-- How deeply directories are nested at most. -/
def maxDirDepth : Nat := 4096

/-- Searches several files. -/
def searchPaths (c : Call) (s : Search) (r : Reach) : Tally → List String → Action Tally
  | t, [] => return t
  | t, path :: paths => do
    searchPaths c s r (← searchPath c s r maxDirDepth true path t) paths

/-- Searches the working directory, whose files are named without it. -/
def searchHere (c : Call) (s : Search) (r : Reach) : Action Tally := do
  match ← ask (.names ".") with
  | .error e => Tally.complain {} c s "." e
  | .ok names => names.foldlM (fun t name => searchPath c s r maxDirDepth false name t) {}

/-! ### Patterns -/

/-- How patterns are meant. -/
inductive PatternKind where
  | basic
  | extended
  | fixed
  deriving DecidableEq

/-- How patterns are read, and which of their matches count. -/
structure PatternStyle where
  kind : PatternKind
  ignoresCase : Bool
  wholeWords : Bool
  wholeLines : Bool

/-- Reads a pattern. -/
def PatternStyle.read (k : PatternStyle) (pattern : String) :
    Except Regex.Flaw (Regex.Compiled × List String) := do
  let dialect : Regex.Dialect :=
    { isExtended := k.kind = .extended, isTolerant := true, ignoresCase := k.ignoresCase }
  let p ← match k.kind with
    | .fixed => .ok (Regex.literal k.ignoresCase pattern)
    | _ => Regex.read dialect pattern
  let between (a : Regex.Place) (t : Regex.Tree) (b : Regex.Place) : Regex.Tree :=
    .seq (.place a) (.seq t (.place b))
  let tree :=
    if k.wholeLines then between .lineStart p.tree .lineEnd
    else if k.wholeWords then between .afterGap p.tree .beforeGap
    else p.tree
  return (({ p with tree } : Regex.Pattern).compiled, p.oddities)

/-- The patterns that options give, each line one, or the failure to read them from a file. -/
def givenPatterns : List (String × String) → Action (Except (String × FileError) (List String))
  | [] => return .ok []
  | (key, value) :: rest => do
    let own : Except (String × FileError) (List String) ← match key with
      | "e" => pure (.ok (splitLines value))
      | "f" => do
        match ← readFile value with
        | .ok text => pure (.ok (linesOf '\n' text))
        | .error e => pure (.error (value, e))
      | _ => pure (.ok [])
    match own, ← givenPatterns rest with
    | .error e, _ => return .error e
    | _, .error e => return .error e
    | .ok a, .ok b => return .ok (a ++ b)
where
  /-- The lines of a text. -/
  splitLines (text : String) : List String :=
    (Text.splitOn '\n' text.toList).map String.ofList

/-! ### Options -/

/-- The options of `grep`. -/
def searchChoices : List Choice := [
  ⟨"E", ["extended-regexp"], .plain⟩, ⟨"F", ["fixed-strings"], .plain⟩,
  ⟨"G", ["basic-regexp"], .plain⟩, ⟨"P", ["perl-regexp"], .plain⟩, ⟨"e", ["regexp"], .required⟩,
  ⟨"f", ["file"], .required⟩, ⟨"i", ["ignore-case"], .plain⟩, ⟨"y", [], .plain⟩,
  ⟨"no-ignore-case", ["no-ignore-case"], .plain⟩, ⟨"w", ["word-regexp"], .plain⟩,
  ⟨"x", ["line-regexp"], .plain⟩, ⟨"z", ["null-data"], .plain⟩, ⟨"s", ["no-messages"], .plain⟩,
  ⟨"v", ["invert-match"], .plain⟩, ⟨"m", ["max-count"], .required⟩,
  ⟨"b", ["byte-offset"], .plain⟩, ⟨"n", ["line-number"], .plain⟩,
  ⟨"line-buffered", ["line-buffered"], .plain⟩, ⟨"H", ["with-filename"], .plain⟩,
  ⟨"h", ["no-filename"], .plain⟩, ⟨"label", ["label"], .required⟩,
  ⟨"o", ["only-matching"], .plain⟩, ⟨"q", ["quiet", "silent"], .plain⟩,
  ⟨"binary-files", ["binary-files"], .required⟩, ⟨"a", ["text"], .plain⟩, ⟨"I", [], .plain⟩,
  ⟨"d", ["directories"], .required⟩, ⟨"D", ["devices"], .required⟩,
  ⟨"r", ["recursive"], .plain⟩, ⟨"R", ["dereference-recursive"], .plain⟩,
  ⟨"include", ["include"], .required⟩, ⟨"exclude", ["exclude"], .required⟩,
  ⟨"exclude-dir", ["exclude-dir"], .required⟩, ⟨"L", ["files-without-match"], .plain⟩,
  ⟨"l", ["files-with-matches"], .plain⟩, ⟨"c", ["count"], .plain⟩,
  ⟨"T", ["initial-tab"], .plain⟩, ⟨"Z", ["null"], .plain⟩,
  ⟨"B", ["before-context"], .required⟩, ⟨"A", ["after-context"], .required⟩,
  ⟨"C", ["context"], .required⟩, ⟨"group-separator", ["group-separator"], .required⟩,
  ⟨"no-group-separator", ["no-group-separator"], .plain⟩,
  ⟨"color", ["color", "colour"], .possible⟩, ⟨"U", ["binary"], .plain⟩] ++ letters "0123456789"

/-- How to call `grep`. -/
def searchUsage : String := "Usage: grep [OPTION]... PATTERNS [FILE]...\n" ++
  "Try 'grep --help' for more information.\n"

/-- The number that options which are digits spell, if they come one after the other. -/
def digitContext (options : List (String × String)) : Option String :=
  let (text, _) := options.foldl (fun ((text, wasDigit) : String × Bool) o =>
    if o.1.length = 1 ∧ o.1.all Char.isDigit then ((if wasDigit then text ++ o.1 else o.1), true)
    else (text, false)) ("", false)
  if text = "" then none else some text

/-- The number of lines of context that an option gives. -/
def contextOf (w : Words) (key : String) : Except String (Option Nat) :=
  match w.get? key with
  | none => .ok none
  | some text => match natural? text with
    | some n => .ok (some n)
    | none => .error (text ++ ": invalid context length argument")

/-- The search that options describe, its patterns aside. -/
def searchOf (w : Words) : Except String Search := do
  let both ← contextOf w "C"
  let before ← contextOf w "B"
  let after ← contextOf w "A"
  let both := (digitContext w.options).bind natural? |>.orElse fun _ => both
  let limit? ← match w.get? "m" with
    | none => .ok none
    | some text => match integer? text with
      | some n => .ok (if n < 0 then none else some n.toNat)
      | none => .error "invalid max count"
  let binary := (w.get? "binary-files").getD ""
  return {
    patterns := [], limit?
    ending := if w.has "z" then '\x00' else '\n'
    inverts := w.has "v", counts := w.has "c", quiet := w.has "q", silent := w.has "s"
    lists? := (w.last? ["l", "L"]).map (· == "l")
    numbers := w.has "n", offsets := w.has "b", onlyMatches := w.has "o"
    before := (before.orElse fun _ => both).getD 0
    after := (after.orElse fun _ => both).getD 0
    hasContext := before.isSome || after.isSome || both.isSome
    separator? := if w.last? ["group-separator", "no-group-separator"] = some "no-group-separator"
      then none else some ((w.get? "group-separator").getD "--")
    binaryAsText := w.has "a" || binary = "text"
    skipsBinary := w.has "I" || binary = "without-match"
    nulNames := w.has "Z", aligns := w.has "T"
    label := (w.get? "label").getD "(standard input)" }

/-- What can be done with directories. -/
def dirActions : List String := ["read", "recurse", "skip"]

/-- What is done with directories by a start of its name. -/
def dirAction? (text : String) : Option String :=
  match dirActions.filter text.isPrefixOf with
  | [action] => some action
  | _ => none

/-- Which files options describe. -/
def reachOf (w : Words) (files : List String) : Reach :=
  let values (key : String) : List String := (w.options.filter (·.1 == key)).map (·.2)
  let action? := (w.get? "d").bind dirAction?
  let isRecursive := w.has "r" || w.has "R" || action? = some "recurse"
  { isRecursive
    followsLinks := w.has "R"
    skipsDirs := action? = some "skip"
    included := values "include"
    excluded := values "exclude"
    excludedDirs := values "exclude-dir"
    withNames? := match w.last? ["H", "h"] with
      | some key => some (key = "H")
      | none =>
        if 1 < files.length then some true else if isRecursive then none else some false }

/-- Reads all patterns; complains of what is odd about them. -/
def readPatterns (c : Call) (k : PatternStyle) :
    List String → Action (Except Regex.Flaw (List Regex.Compiled))
  | [] => return .ok []
  | text :: rest => do
    match k.read text with
    | .error e => return .error e
    | .ok (compiled, oddities) =>
      for oddity in oddities do
        c.complain ("warning: " ++ oddity)
      match ← readPatterns c k rest with
      | .error e => return .error e
      | .ok others => return .ok (compiled :: others)

/-- What is wrong with a word that an option has as its argument, and whether it is told how to call
the program. -/
def wrongWord? (w : Words) : Option (Bool × String) :=
  let wrong (key : String) (isRight : String → Bool) (complaint : String → Bool × String) :
      Option (Bool × String) :=
    (w.options.find? fun o => o.1 == key && !isRight o.2).map fun o => complaint o.2
  let inDir := wrong "d" (fun text => (dirAction? text).isSome) fun text =>
    (true, (if dirActions.any text.isPrefixOf then "ambiguous" else "invalid") ++ " argument " ++
      cited text ++ " for '--directories'\nValid arguments are:" ++
      "".intercalate (dirActions.map fun a => "\n  - '" ++ a ++ "'"))
  let inDevice := wrong "D" ["read", "skip"].contains fun _ => (false, "unknown devices method")
  let inBinary := wrong "binary-files" ["binary", "text", "without-match"].contains fun _ =>
    (false, "unknown binary-files type")
  inDir.or (inDevice.or inBinary)

/-- Searches files for patterns. -/
def grep : Program := fun c =>
  match Options.read searchChoices false c.args with
  | .error reason => do
    c.complain reason
    c.note searchUsage
    return 2
  | .ok w => do
    let kinds := (w.options.map (·.1)).filter ["E", "F", "G", "P"].contains
    if 1 < kinds.eraseDups.length then return ← c.fail 2 "conflicting matchers specified"
    let kind := match kinds.head? with
      | some "E" | some "P" => .extended
      | some "F" => .fixed
      | some _ => .basic
      | none => .basic
    match wrongWord? w with
    | some (isUsage, reason) =>
      c.complain reason
      if isUsage then c.note searchUsage
      return if isUsage then 1 else 2
    | none => pure ()
    let style : PatternStyle := {
      kind
      ignoresCase := (w.last? ["i", "y", "no-ignore-case"]).elim false (· ≠ "no-ignore-case")
      wholeWords := w.has "w", wholeLines := w.has "x" }
    match searchOf w with
    | .error reason => c.fail 2 reason
    | .ok search =>
      match ← givenPatterns w.options with
      | .error (path, e) => c.fail 2 (path ++ ": " ++ e.reason)
      | .ok given =>
        let isGiven := w.has "e" || w.has "f"
        if !isGiven && w.operands.isEmpty then
          c.note searchUsage
          return 2
        let texts := if isGiven then given
          else givenPatterns.splitLines (w.operands.headD "")
        let files := if isGiven then w.operands else w.operands.drop 1
        match ← readPatterns c style texts with
        | .error e => c.fail 2 e.message
        | .ok patterns =>
          let search := { search with patterns }
          let range := reachOf w files
          let t ← if files.isEmpty && range.isRecursive then searchHere c search range
            else searchPaths c search range {} (if files.isEmpty then ["-"] else files)
          let status := if search.quiet && t.hasFound then 0
            else if t.hasFailed then 2 else if t.hasFound then 0 else 1
          t.output.finish c status 2

/-- Searches files for patterns of the extended dialect. -/
def egrep : Program := fun c =>
  grep { c with name := "grep", args := "-E" :: c.args }

/-- Searches files for texts. -/
def fgrep : Program := fun c =>
  grep { c with name := "grep", args := "-F" :: c.args }

end LuaBundler.Utility
