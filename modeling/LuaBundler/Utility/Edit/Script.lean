import LuaBundler.Utility.Basic
import LuaBundler.Utility.Regex.Reader

/-!
# Editing scripts

A script is a sequence of commands, each with the lines that it is meant for. Blocks and labels make
some commands depend on the place of others; they are told by their index in the script.

A script may come in pieces. An error is told with the piece and how far into it reading has come.
-/

namespace LuaBundler.Utility.Edit

/-! ### Commands -/

/-- A pattern of a script; without a regular expression it is the last one that was used. -/
structure Pattern where
  regex? : Option Regex.Compiled
  byLines : Bool

/-- What a line is meant by. -/
inductive Address where
  | line (n : Nat)
  | every (first step : Nat)
  | last
  | pattern (p : Pattern)

/-- Where a range of lines ends. -/
inductive Bound where
  | line (n : Nat)
  | last
  | pattern (p : Pattern)
  | after (count : Nat)
  /-- At the next line whose number is a multiple. -/
  | multiple (n : Nat)

/-- The lines that a command is meant for. -/
structure Selector where
  first? : Option Address := none
  bound? : Option Bound := none
  isNegated : Bool := false

/-- How the case of letters is changed. -/
inductive Casing where
  | keep
  | upper
  | lower
  deriving DecidableEq

/-- A part of a replacement. -/
inductive Part where
  | text (s : String)
  | group (n : Nat)
  /-- For all that follows. -/
  | casing (c : Casing)
  /-- For the next character. -/
  | oneCasing (c : Casing)

/-- A substitution. -/
structure Substitution where
  pattern : Pattern
  parts : List Part
  isGlobal : Bool := false
  prints : Bool := false
  number : Nat := 1
  /-- Whether the result is run as a command of the shell. -/
  executes : Bool := false
  file? : Option String := none

/-- When a jump is made. -/
inductive JumpTime where
  | always
  | afterChange
  | withoutChange
  deriving DecidableEq

/-- What a command does. -/
inductive Verb where
  /-- Starts a block; what follows the block is at an index. -/
  | block (next : Nat)
  | nothing
  | number
  | append (text : String)
  | insert (text : String)
  | change (text : String)
  /-- Jumps to a label, or to the end. -/
  | jump (label : String) (time : JumpTime)
  | delete
  | deleteLine
  | getHold
  | addHold
  | keep
  | addKeep
  | swap
  | list (width? : Option Nat)
  | next
  | addNext
  | print
  | printLine
  | quit (status : Nat) (prints : Bool)
  | readFile (path : String)
  | readLine (path : String)
  | writeFile (path : String)
  | writeLine (path : String)
  | substitute (s : Substitution)
  | translate (source target : List Char)
  | zap
  | fileName
  /-- Runs a command of the shell, or the line as one. -/
  | execute (text : String)

/-- A command with the lines that it is meant for. -/
structure Command where
  selector : Selector
  verb : Verb

/-- A script. -/
structure Script where
  commands : Array Command := #[]
  labels : List (String × Nat) := []

/-! ### Reading -/

/-- How scripts are read. -/
structure Manner where
  isExtended : Bool

/-- The state of a reader: what is left of the script, and how much has been read of it. -/
structure Reader where
  rest : List Char
  used : Nat := 0
  script : Script := {}
  /-- The blocks that are open: their index, and where they start. -/
  blocks : List (Nat × Nat) := []
  /-- The files that the script writes to. -/
  files : List String := []

/-- An error: what is wrong, and how much had been read; nothing of the piece, if it is told so. -/
structure Flaw where
  reason : String
  used : Nat
  isOfPiece : Bool := false
  /-- Whether it is not told where the error is. -/
  isGeneral : Bool := false

/-- Reading. -/
abbrev Reading := EStateM Flaw Reader

namespace Reading

/-- Complains. -/
def fail {α : Type} (reason : String) : Reading α := do
  throw { reason, used := (← get).used }

/-- The next character. -/
def next : Reading (Option Char) := do
  let r ← get
  match r.rest with
  | [] => return none
  | c :: rest =>
    set { r with rest, used := r.used + 1 }
    return some c

/-- The next character without reading it. -/
def peek : Reading (Option Char) := do
  return (← get).rest.head?

/-- Reads over characters. -/
def skipWhile (test : Char → Bool) : Reading Unit :=
  modify fun r =>
    let skipped := r.rest.takeWhile test
    { r with rest := r.rest.drop skipped.length, used := r.used + skipped.length }

/-- Reads characters. -/
def takeWhile (test : Char → Bool) : Reading String := do
  let taken := (← get).rest.takeWhile test
  modify fun r => { r with rest := r.rest.drop taken.length, used := r.used + taken.length }
  return String.ofList taken

/-- Whether a character is a blank. -/
def isBlank (c : Char) : Bool :=
  c = ' ' || c = '\t'

/-- Whether a character is white space. -/
def isSpace (c : Char) : Bool :=
  c = ' ' || (9 ≤ c.toNat && c.toNat ≤ 13)

/-- The next character that is no blank. -/
def nextNonblank : Reading (Option Char) := do
  skipWhile isBlank
  next

/-- Reads a number. -/
def readNumber : Reading Nat := do
  return (natural? (← takeWhile Char.isDigit)).getD 0

/-! ### Escapes -/

/-- The value of a digit. -/
def digitValue (c : Char) : Nat :=
  if c.isDigit then c.toNat - 48 else c.toLower.toNat - 87

/-- The character of a code in a base, of which there are so many digits at most, and what follows;
nothing if there is no digit. -/
def coded? (base count : Nat) (cs : List Char) : Option (Char × List Char) :=
  let isDigit (c : Char) : Bool :=
    (c.isDigit && digitValue c < base) || (base = 16 && 'a' ≤ c.toLower && c.toLower ≤ 'f')
  let ds := (cs.take count).takeWhile isDigit
  if ds.isEmpty then none
  else some (Char.ofNat (ds.foldl (fun n c => n * base + digitValue c) 0 % 256), cs.drop ds.length)

/-- The character that an escape stands for, given what follows its backslash, and what follows it;
nothing if it is none. -/
def escaped? : List Char → Option (Char × List Char)
  | 'a' :: cs => some ('\x07', cs)
  | 'f' :: cs => some ('\x0c', cs)
  | 'n' :: cs => some ('\n', cs)
  | 'r' :: cs => some ('\r', cs)
  | 't' :: cs => some ('\t', cs)
  | 'v' :: cs => some ('\x0b', cs)
  | 'c' :: c :: cs => some (Char.ofNat ((c.toUpper.toNat + 64) % 128), cs)
  | 'd' :: cs => coded? 10 3 cs
  | 'o' :: cs => coded? 8 3 cs
  | 'x' :: cs => coded? 16 2 cs
  | _ => none

/-- A text of a regular expression with its escapes replaced. -/
def plainRegex : Nat → List Char → List Char
  | 0, cs => cs
  | _ + 1, [] => []
  | steps + 1, '\\' :: cs =>
    match escaped? cs, cs with
    | some (c, rest), _ => c :: plainRegex steps rest
    | none, c :: rest => '\\' :: c :: plainRegex steps rest
    | none, [] => ['\\']
  | steps + 1, c :: cs => c :: plainRegex steps cs

/-- A text that is inserted, with its escapes replaced and its other backslashes dropped. -/
def plainText : Nat → List Char → List Char
  | 0, cs => cs
  | _ + 1, [] => []
  | steps + 1, '\\' :: cs =>
    match escaped? cs, cs with
    | some (c, rest), _ => c :: plainText steps rest
    | none, c :: rest => c :: plainText steps rest
    | none, [] => []
  | steps + 1, c :: cs => c :: plainText steps cs

/-! ### Delimited texts -/

/-- Where in a regular expression a delimiter would be. -/
inductive Spot where
  | outside
  /-- In a set of characters, after so many of those that may start it. -/
  | inSet (isFirst : Bool)
  /-- In the name of a class, which a character and a bracket end. -/
  | inClass (closing : Char)

/-- Reads a text up to a delimiter; none if it does not come on the same line. In a regular
expression an escaped line end is one, and a delimiter in a set of characters is one of them. An
escaped delimiter loses its backslash. -/
def readDelimited (delimiter : Char) (isRegex : Bool) :
    Nat → Spot → List Char → Reading (Option (List Char))
  | 0, _, _ => return none
  | steps + 1, spot, found => do
    match ← peek with
    | none | some '\n' => return none
    | some c =>
      discard next
      match spot with
      | .outside =>
        if c = delimiter then return some found.reverse
        else if c = '\\' then
          match ← next with
          | none => return none
          | some e =>
            let found :=
              if e = 'n' && isRegex then '\n' :: found
              else if e = '\n' || (e = delimiter && (isRegex || e ≠ '&')) then e :: found
              else e :: '\\' :: found
            readDelimited delimiter isRegex steps .outside found
        else if c = '[' && isRegex then
          if (← peek) = some '^' then
            discard next
            readDelimited delimiter isRegex steps (.inSet true) ('^' :: c :: found)
          else readDelimited delimiter isRegex steps (.inSet true) (c :: found)
        else readDelimited delimiter isRegex steps .outside (c :: found)
      | .inSet isFirst =>
        if c = ']' && !isFirst then
          readDelimited delimiter isRegex steps .outside (c :: found)
        else match c, ← peek with
        | '\\', some 'n' =>
          discard next
          readDelimited delimiter isRegex steps (.inSet false) ('\n' :: found)
        | '\\', some '\\' =>
          discard next
          readDelimited delimiter isRegex steps (.inSet false) (c :: c :: found)
        | '[', some e =>
          if e = ':' || e = '.' || e = '=' then
            discard next
            readDelimited delimiter isRegex steps (.inClass e) (e :: c :: found)
          else readDelimited delimiter isRegex steps (.inSet false) (c :: found)
        | _, _ => readDelimited delimiter isRegex steps (.inSet false) (c :: found)
      | .inClass closing =>
        if c = closing && (← peek) = some ']' then
          discard next
          readDelimited delimiter isRegex steps (.inSet false) (']' :: c :: found)
        else readDelimited delimiter isRegex steps spot (c :: found)

/-- Reads a text up to a delimiter. -/
def readUpTo (delimiter : Char) (isRegex : Bool) : Reading (Option (List Char)) := do
  readDelimited delimiter isRegex ((← get).rest.length + 1) .outside []

/-- The pattern of a text; gives its groups too. -/
def patternOf (m : Manner) (text : List Char) (ignoresCase byLines hasFlags : Bool) :
    Reading (Pattern × Option Nat) := do
  if text.isEmpty then
    if hasFlags then fail "cannot specify modifiers on empty regexp"
    return (⟨none, byLines⟩, none)
  else
    let plain := String.ofList (plainRegex (text.length + 1) text)
    match Regex.read { isExtended := m.isExtended, isTolerant := false, ignoresCase } plain with
    | .ok p => return (⟨some p.compiled, byLines⟩, some p.groups)
    | .error e =>
      if e = .bareClass then throw { reason := e.message, used := 0, isGeneral := true }
      else fail e.message

/-! ### Addresses -/

/-- Reads the letters after the pattern of an address. -/
def readPatternFlags : Nat → Bool → Bool → Reading (Bool × Bool)
  | 0, i, m => return (i, m)
  | steps + 1, i, m => do
    skipWhile isBlank
    match ← peek with
    | some 'I' =>
      discard next
      readPatternFlags steps true m
    | some 'M' =>
      discard next
      readPatternFlags steps i true
    | _ => return (i, m)

/-- Reads an address that is a pattern, whose delimiter has been read. -/
def readPatternAddress (m : Manner) (delimiter : Char) : Reading Pattern := do
  match ← readUpTo delimiter true with
  | none => fail "unterminated address regex"
  | some text =>
    let (i, lines) ← readPatternFlags ((← get).rest.length + 1) false false
    return (← patternOf m text i lines (i || lines)).1

/-- Reads a number after blanks, if there is one. -/
def readStep : Reading Nat := do
  skipWhile isBlank
  readNumber

/-- Reads the first address of a command, if there is one. -/
def readAddress? (m : Manner) : Reading (Option Address) := do
  match ← peek with
  | some '$' =>
    discard next
    return some .last
  | some '/' =>
    discard next
    return some (.pattern (← readPatternAddress m '/'))
  | some '\\' =>
    discard next
    match ← next with
    | some c => return some (.pattern (← readPatternAddress m c))
    | none => fail "unexpected `,'"
  | some c =>
    if c.isDigit then
      let n ← readNumber
      skipWhile isBlank
      if (← peek) = some '~' then
        discard next
        let step ← readStep
        return some (if step = 0 then .line n else .every n step)
      else return some (.line n)
    else if c = '+' ∨ c = '~' then
      discard next
      discard readNumber
      fail "invalid usage of +N or ~N as first address"
    else return none
  | none => return none

/-- Reads the end of a range. -/
def readBound (m : Manner) : Reading Bound := do
  skipWhile isBlank
  match ← peek with
  | some '+' =>
    discard next
    return .after (← readStep)
  | some '~' =>
    discard next
    let n ← readStep
    return if n = 0 then .after 0 else .multiple n
  | _ =>
    match ← readAddress? m with
    | some (.line n) | some (.every n _) => return .line n
    | some .last => return .last
    | some (.pattern p) => return .pattern p
    | none =>
      discard next
      fail "unexpected `,'"

/-- Reads the exclamation mark of a command, if there is one. -/
def readNegation : Reading Bool := do
  skipWhile isBlank
  if (← peek) = some '!' then
    discard next
    skipWhile isBlank
    if (← peek) = some '!' then
      discard next
      fail "multiple `!'s"
    return true
  else return false

/-- Reads the lines that a command is meant for. -/
def readSelector (m : Manner) : Reading Selector := do
  match ← readAddress? m with
  | none => return { isNegated := ← readNegation }
  | some first =>
    skipWhile isBlank
    let bound? ← if (← peek) = some ',' then do
        discard next
        pure (some (← readBound m))
      else pure none
    let isZero := match first with
      | .line 0 => true
      | _ => false
    let isUntilPattern := match bound? with
      | some (.pattern _) => true
      | _ => false
    if isZero && !isUntilPattern then
      discard next
      fail "invalid usage of line address 0"
    return { first? := some first, bound?, isNegated := ← readNegation }

/-! ### Arguments of commands -/

/-- Reads up to the end of a command. -/
def endCommand : Reading Unit := do
  skipWhile isBlank
  match ← peek with
  | some '\x7d' | some '#' => pure ()
  | some ';' | some '\n' | none => discard next
  | some '\r' => discard next
  | some _ =>
    discard next
    fail "extra characters after command"

/-- Reads the name of a file, which goes on to the end of the line. -/
def readPath : Reading String := do
  skipWhile isBlank
  let path ← takeWhile (· ≠ '\n')
  if path = "" then fail "missing filename in r/R/w/W commands"
  return path

/-- Takes note of a file that is written to. -/
def noteFile (path : String) : Reading Unit :=
  modify fun r => { r with files := if r.files.contains path then r.files else r.files ++ [path] }

/-- Reads a label. -/
def readLabel : Reading String := do
  skipWhile isBlank
  takeWhile fun c => !(isSpace c || c = ';' || c = '\x7d')

/-- Reads the text of a command up to a line end that is not escaped. -/
def readTextLines : Nat → List Char → Reading (List Char)
  | 0, found => return found.reverse
  | steps + 1, found => do
    match ← next with
    | none | some '\n' => return found.reverse
    | some '\\' =>
      match ← next with
      | none => return found.reverse
      | some c => readTextLines steps (c :: '\\' :: found)
    | some c => readTextLines steps (c :: found)

/-- Reads a text that is inserted. -/
def readText : Reading String := do
  skipWhile isBlank
  match ← peek with
  | none => fail "expected \\ after `a', `c' or `i'"
  | some c =>
    let isEmpty ← if c = '\\' then do
        discard next
        let blanks ← takeWhile isBlank
        match ← peek with
        | some '\n' =>
          discard next
          pure false
        | none => pure true
        | some _ =>
          modify fun r => { r with
            rest := blanks.toList ++ r.rest, used := r.used - blanks.length }
          pure false
      else pure false
    if isEmpty then return ""
    else
      let size := (← get).rest.length + 1
      let cs ← readTextLines size []
      return (String.ofList (plainText size cs)).push '\n'

/-- The parts of a replacement. -/
def partsOf : Nat → List Char → List Char → List Part
  | 0, _, _ => []
  | _ + 1, [], found => flush found
  | steps + 1, '\\' :: c :: cs, found =>
    if c.isDigit then flush found ++ .group (c.toNat - 48) :: partsOf steps cs []
    else match c with
    | 'U' => flush found ++ .casing .upper :: partsOf steps cs []
    | 'L' => flush found ++ .casing .lower :: partsOf steps cs []
    | 'E' => flush found ++ .casing .keep :: partsOf steps cs []
    | 'u' => flush found ++ .oneCasing .upper :: partsOf steps cs []
    | 'l' => flush found ++ .oneCasing .lower :: partsOf steps cs []
    | c =>
      match escaped? (c :: cs) with
      | some (e, rest) => partsOf steps rest (e :: found)
      | none => partsOf steps cs (c :: found)
  | steps + 1, '&' :: cs, found => flush found ++ .group 0 :: partsOf steps cs []
  | steps + 1, c :: cs, found => partsOf steps cs (c :: found)
where
  /-- A part of the characters that have been found, the last one first. -/
  flush (found : List Char) : List Part :=
    if found.isEmpty then [] else [.text (String.ofList found.reverse)]

/-- The flags of a substitution. -/
structure Flags where
  isGlobal : Bool := false
  prints : Bool := false
  ignoresCase : Bool := false
  byLines : Bool := false
  number? : Option Nat := none
  executes : Bool := false
  file? : Option String := none

/-- Reads the flags of a substitution. -/
def readFlags : Nat → Flags → Reading Flags
  | 0, f => return f
  | steps + 1, f => do
    match ← peek with
    | some '\x7d' | some '#' => return f
    | some c =>
      if c.isDigit then
        let n ← readNumber
        if f.number?.isSome then fail "multiple number options to `s' command"
        if n = 0 then fail "number option to `s' command may not be zero"
        readFlags steps { f with number? := some n }
      else
        discard next
        match c with
        | ';' | '\n' => return f
        | 'g' =>
          if f.isGlobal then fail "multiple `g' options to `s' command"
          readFlags steps { f with isGlobal := true }
        | 'p' =>
          if f.prints then fail "multiple `p' options to `s' command"
          readFlags steps { f with prints := true }
        | 'i' | 'I' => readFlags steps { f with ignoresCase := true }
        | 'm' | 'M' => readFlags steps { f with byLines := true }
        | 'e' => readFlags steps { f with executes := true }
        | 'w' =>
          let path ← readPath
          noteFile path
          return { f with file? := some path }
        | ' ' | '\t' | '\r' => readFlags steps f
        | _ => fail "unknown option to `s'"
    | none => return f

/-- Reads a substitution. -/
def readSubstitution (m : Manner) : Reading Substitution := do
  let orFail (text : Option (List Char)) : Reading (List Char) :=
    match text with
    | some text => pure text
    | none => fail "unterminated `s' command"
  let delimiter ← match ← next with
    | some c => pure c
    | none => fail "unterminated `s' command"
  let regex ← orFail (← readUpTo delimiter true)
  let replacement ← orFail (← readUpTo delimiter false)
  let f ← readFlags ((← get).rest.length + 1) {}
  let (pattern, groups?) ← patternOf m regex f.ignoresCase f.byLines (f.ignoresCase || f.byLines)
  let parts := partsOf (replacement.length + 1) replacement []
  match groups?, parts.filterMap fun p => match p with
    | .group n => some n
    | _ => none with
  | some groups, used =>
    match used.find? (groups < ·) with
    | some n => fail ("invalid reference \\" ++ Text.decimal n ++ " on `s' command's RHS")
    | none => pure ()
  | none, _ => pure ()
  return { pattern, parts, isGlobal := f.isGlobal, prints := f.prints
           number := f.number?.getD 1, executes := f.executes, file? := f.file? }

/-- The characters of a translation. -/
def plainChars : List Char → List Char
  | '\\' :: 'n' :: cs => '\n' :: plainChars cs
  | '\\' :: c :: cs => c :: plainChars cs
  | c :: cs => c :: plainChars cs
  | [] => []

/-- Reads a translation of characters. -/
def readTranslation : Reading Verb := do
  let orFail (text : Option (List Char)) : Reading (List Char) :=
    match text with
    | some text => pure (plainChars text)
    | none => fail "unterminated `y' command"
  let delimiter ← match ← next with
    | some c => pure c
    | none => fail "unterminated `y' command"
  let source ← orFail (← readUpTo delimiter false)
  let target ← orFail (← readUpTo delimiter false)
  if source.length ≠ target.length then fail "strings for `y' command are different lengths"
  endCommand
  return .translate source target

/-- Reads a number that may follow a command. -/
def readWidth? : Reading (Option Nat) := do
  skipWhile isBlank
  let digits ← takeWhile Char.isDigit
  endCommand
  return natural? digits

/-! ### Commands -/

/-- Adds a command. -/
def add (selector : Selector) (verb : Verb) : Reading Unit :=
  modify fun r => { r with script := { r.script with
    commands := r.script.commands.push ⟨selector, verb⟩ } }

/-- Closes a block. -/
def closeBlock : Reading Unit := do
  let r ← get
  match r.blocks with
  | [] => fail "unexpected `\x7d'"
  | (start, _) :: blocks =>
    let next := r.script.commands.size
    let commands := r.script.commands.modify start fun c => { c with verb := .block next }
    set { r with blocks, script := { r.script with commands } }
    endCommand

/-- The commands of a letter that have no argument. -/
def simpleVerbs : List (Char × Verb) := [('=', .number), ('d', .delete), ('D', .deleteLine),
  ('g', .getHold), ('G', .addHold), ('h', .keep), ('H', .addKeep), ('x', .swap), ('n', .next),
  ('N', .addNext), ('p', .print), ('P', .printLine), ('z', .zap), ('F', .fileName)]

/-- Reads what follows the letter of a command, and adds the command. -/
def readVerb (m : Manner) (s : Selector) (letter : Char) : Reading Unit := do
  match simpleVerbs.lookup letter with
  | some verb =>
    endCommand
    add s verb
  | none =>
    match letter with
    | '#' =>
      if s.first?.isSome then fail "comments don't accept any addresses"
      skipWhile (· ≠ '\n')
    | '\x7b' =>
      let r ← get
      set { r with blocks := (r.script.commands.size, r.used) :: r.blocks }
      add s (.block 0)
    | '\x7d' =>
      if (← get).blocks.isEmpty then fail "unexpected `\x7d'"
      if s.first?.isSome then fail "\x7d doesn't want any addresses"
      closeBlock
    | ':' =>
      if s.first?.isSome then fail ": doesn't want any addresses"
      let label ← readLabel
      if label = "" then fail "\":\" lacks a label"
      modify fun r => { r with script := { r.script with
        labels := r.script.labels ++ [(label, r.script.commands.size)] } }
    | 'a' => do add s (.append (← readText))
    | 'i' => do add s (.insert (← readText))
    | 'c' => do add s (.change (← readText))
    | 'b' => do add s (.jump (← readLabel) .always)
    | 't' => do add s (.jump (← readLabel) .afterChange)
    | 'T' => do add s (.jump (← readLabel) .withoutChange)
    | 'e' =>
      skipWhile isBlank
      let text ← takeWhile (· ≠ '\n')
      add s (.execute text)
    | 'l' => do add s (.list (← readWidth?))
    | 'q' | 'Q' =>
      if s.bound?.isSome then fail "command only uses one address"
      add s (.quit ((← readWidth?).getD 0) (letter = 'q'))
    | 'r' => do add s (.readFile (← readPath))
    | 'R' => do add s (.readLine (← readPath))
    | 'w' =>
      let path ← readPath
      noteFile path
      add s (.writeFile path)
    | 'W' =>
      let path ← readPath
      noteFile path
      add s (.writeLine path)
    | 's' => do add s (.substitute (← readSubstitution m))
    | 'y' => do add s (← readTranslation)
    | 'v' =>
      skipWhile isBlank
      let version ← takeWhile fun c => !(isSpace c || c = ';')
      if version.startsWith "4." ∨ version = "" then endCommand
      else fail "expected newer version of sed"
    | c => fail ("unknown command: `" ++ String.singleton c ++ "'")

/-- Reads the commands of a script. -/
def readCommands (m : Manner) : Nat → Reading Unit
  | 0 => pure ()
  | steps + 1 => do
    skipWhile fun c => isSpace c || c = ';'
    if (← peek).isNone then pure ()
    else
      let s ← readSelector m
      skipWhile isBlank
      match ← peek with
      | none | some '\n' | some ';' =>
        if s.first?.isSome ∨ s.isNegated then fail "missing command"
      | some c =>
        discard next
        readVerb m s c
      readCommands m steps

/-- The labels that a script jumps to. -/
def jumpLabels (s : Script) : List String :=
  s.commands.toList.filterMap fun c => match c.verb with
    | .jump label _ => if label = "" then none else some label
    | _ => none

/-- Reads a whole script. -/
def readScript (m : Manner) : Reading (Script × List String) := do
  readCommands m ((← get).rest.length + 1)
  let r ← get
  match r.blocks with
  | (_, used) :: _ => throw { reason := "unmatched `\x7b'", used, isOfPiece := true }
  | [] =>
    match (jumpLabels r.script).find? fun l => !(r.script.labels.any (·.1 == l)) with
    | some label => throw {
        reason := "can't find label for jump to `" ++ label ++ "'", used := 0, isGeneral := true }
    | none => return (r.script, r.files)

end Reading

/-- A script that has been read, and the files that it writes to; or an error. -/
def Script.read (m : Manner) (text : String) : Except Flaw (Script × List String) :=
  match (Reading.readScript m).run { rest := text.toList } with
  | .ok found _ => .ok found
  | .error e _ => .error e

end LuaBundler.Utility.Edit
