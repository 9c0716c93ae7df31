import LuaBundler.Shell.Builtin.Basic
import LuaBundler.Shell.Fields

/-!
# Builtins: variables and arguments

Setting and showing variables, options and arguments, and reading variables from lines.
-/

namespace LuaBundler.Shell.Builtin

open LuaBundler.System LuaBundler.Text

/-! ### Variables -/

/-- An argument taken apart at its first equals sign. -/
def splitAssignment (arg : String) : String × Option String :=
  let name := arg.toList.takeWhile (· ≠ '=')
  match arg.toList.drop name.length with
  | _ :: value => (String.ofList name, some (String.ofList value))
  | [] => (arg, none)

/-- Marks variables, or shows those that are marked. -/
def mark (word : String) (isExport : Bool) (args : List String) : Sh Nat := do
  let (opts, names) ← options "p" args
  if opts.isEmpty && !names.isEmpty then
    for arg in names do
      match splitAssignment arg with
      | (name, some value) => Sh.setVar name (some value) isExport (!isExport)
      | (name, none) => Sh.markVar name isExport (!isExport)
  else
    showVars (word ++ " ") fun v => if isExport then v.isExported else v.isReadonly
  return 0

/-- Makes variables local to the function that runs. -/
def makeLocal (args : List String) : Sh Nat := do
  if (← Sh.get).locals.isEmpty then Sh.fail "not in a function"
  for arg in args do
    match splitAssignment arg with
    | (name, value?) =>
      if name = "-" ∧ value?.isNone then pure ()
      else
        if !isName name.toList then Sh.fail (name ++ ": bad variable name")
        Sh.saveLocal name
        match value? with
        | some value => Sh.assign name value
        | none => pure ()
  return 0

/-- Takes variables or functions away. -/
def unset (args : List String) : Sh Nat := do
  let (opts, names) ← options "vf" args
  let ofFunctions := (opts.getLast?.map (·.1)) = some 'f'
  for name in names do
    if ofFunctions then
      Sh.modify fun s => { s with functions := Shell.dropEntry name s.functions }
    else if !isName name.toList then Sh.fail (name ++ ": bad variable name")
    else Sh.unsetVar name
  return 0

/-! ### Options and arguments -/

/-- Sets the arguments. -/
def setParams (params : List String) : Sh Unit :=
  Sh.modify fun s => { s with params, nextOption := 1, optionOffset := 0 }

/-- Turns an option on or off. -/
def turn (name : String) (isOn : Bool) : Sh Unit :=
  Sh.modify fun s =>
    let rest := s.options.filter (· != name)
    { s with options := if isOn then name :: rest else rest }

/-- Turns the option of a letter on or off. -/
def turnLetter (c : Char) (isOn : Bool) : Sh Unit := do
  match optionNames.find? (·.2 = some c) with
  | some (name, _) => turn name isOn
  | none => Sh.fail ("Illegal option -" ++ String.singleton c)

/-- A text with spaces after it up to a width. -/
def padRight (width : Nat) (s : String) : String :=
  s ++ String.ofList (List.replicate (width - s.length) ' ')

/-- Turns the option of a name on or off, or lists all options; at the start all of them count as
set. -/
def turnNamed (isStart : Bool) (name? : Option String) (isOn : Bool) : Sh Unit := do
  match name? with
  | some name =>
    if optionNames.any (·.1 == name) then turn name isOn
    else Sh.fail ("Illegal option -o " ++ name)
  | none =>
    let s ← Sh.get
    if isOn then Sh.print "Current option settings\n"
    for (name, _) in optionNames do
      let isSet := isStart || s.has name
      Sh.print (if isOn then padRight 16 name ++ (if isSet then "on\n" else "off\n")
        else "set " ++ (if isSet then "-o " else "+o ") ++ name ++ "\n")

/-- The letters in a word of options; of options by name, the words after it are used up. Gives the
words that are left, and whether a text of commands was announced. -/
def readLetters (isStart isOn : Bool) : List Char → List String → Sh (List String × Bool)
  | [], args => return (args, false)
  | c :: cs, args => do
    if isStart && c = 'c' then
      let (args, _) ← readLetters isStart isOn cs args
      return (args, true)
    else if c = 'o' then
      turnNamed isStart args.head? isOn
      readLetters isStart isOn cs (args.drop 1)
    else if isStart && c = 'l' then readLetters isStart isOn cs args
    else
      turnLetter c isOn
      readLetters isStart isOn cs args

/-- Reads the options at the start of the shell, or of its command to set them. Gives the words
after them, and whether a text of commands was announced. -/
def readOptions (isStart : Bool) : Nat → Bool → List String → Sh (List String × Bool)
  | 0, hasText, args => return (args, hasText)
  | steps + 1, hasText, args => do
    match args with
    | [] => return ([], hasText)
    | arg :: rest =>
      match arg.toList with
      | ['-'] =>
        if !isStart then
          turn "xtrace" false
          turn "verbose" false
        return (rest, hasText)
      | ['-', '-'] =>
        if !isStart && rest.isEmpty then setParams []
        return (rest, hasText)
      | '-' :: cs =>
        let (rest, text) ← readLetters isStart true cs rest
        readOptions isStart steps (hasText || text) rest
      | '+' :: cs =>
        let (rest, text) ← readLetters isStart false cs rest
        readOptions isStart steps (hasText || text) rest
      | _ => return (args, hasText)

/-- Sets options and arguments, or shows variables. -/
def set (args : List String) : Sh Nat := do
  if args.isEmpty then
    showVars "" fun v => v.value?.isSome
  else
    let (rest, _) ← readOptions false (args.length + 1) false args
    if !rest.isEmpty then setParams rest
  return 0

/-- Drops the first arguments. -/
def shift (args : List String) : Sh Nat := do
  let n ← match args with
    | [] => pure 1
    | a :: _ => number a
  let s ← Sh.get
  if s.params.length < n then Sh.fail "can't shift that many"
  setParams (s.params.drop n)
  return 0

/-! ### Options of scripts -/

/-- Whether a text of option letters has a letter, and whether that letter takes an argument. -/
def findLetter (c : Char) (letters : List Char) : Option Bool :=
  match letters with
  | [] => none
  | d :: rest =>
    let takes := rest.head? = some ':'
    if c = d then some takes else findLetter c (if takes then rest.drop 1 else rest)
termination_by letters.length
decreasing_by
  simp only [List.length_cons]
  split
  · simp only [List.length_drop]; omega
  · omega

/-- What looking for an option finds: a letter, an argument if there is one, a complaint, and where
to go on: the next word, and the offset in the word before it. -/
structure FoundOption where
  letter : Char
  argument? : Option String := none
  complaint? : Option String := none
  next : Nat
  offset : Nat := 0
  isDone : Bool := false

/-- Looks for the next option in words. -/
def findOption (letters : List Char) (words : List String) (next offset : Nat) : FoundOption :=
  let isSilent := letters.head? = some ':'
  let current := if next ≤ 1 ∨ offset = 0 then []
    else ((words.getD (next - 2) "").toList.drop offset)
  let start : Option (List Char × Nat × Nat) :=
    if current ≠ [] then some (current, next, offset)
    else match (words[next - 1]?).map String.toList with
      | some ['-', '-'] => none
      | some ('-' :: c :: cs) => some (c :: cs, next + 1, 1)
      | _ => none
  match start with
  | none =>
    let skipped := current = [] && words[next - 1]? == some "--"
    { letter := '?', next := if skipped then next + 1 else next, isDone := true }
  | some ([], next, _) => { letter := '?', next, isDone := true }
  | some (c :: cs, next, offset) =>
    let offset := if cs = [] then 0 else offset + 1
    match findLetter c letters with
    | none =>
      if isSilent then { letter := '?', argument? := some (String.singleton c), next, offset }
      else { letter := '?', complaint? := some ("Illegal option -" ++ String.singleton c)
             next, offset }
    | some false => { letter := c, argument? := some "", next, offset }
    | some true =>
      if cs ≠ [] then { letter := c, argument? := some (String.ofList cs), next }
      else match words[next - 1]? with
        | some word => { letter := c, argument? := some word, next := next + 1 }
        | none =>
          if isSilent then { letter := ':', argument? := some (String.singleton c), next }
          else { letter := '?'
                 complaint? := some ("No arg for -" ++ String.singleton c ++ " option"), next }

/-- Finds the next option of a script. -/
def getopts (args : List String) : Sh Nat := do
  match args with
  | letters :: name :: words =>
    let s ← Sh.get
    let words := if words.isEmpty then s.params else words
    let (next, offset) := if words.length + 1 < s.nextOption then (1, 0)
      else (max 1 s.nextOption, s.optionOffset)
    let found := findOption letters.toList words next offset
    match found.complaint? with
    | some text => Sh.writeError (text ++ "\n")
    | none => pure ()
    if !found.isDone then
      match found.argument? with
      | some value => Sh.assign "OPTARG" value
      | none => Sh.unsetVar "OPTARG"
    Sh.assign "OPTIND" (decimal found.next)
    Sh.assign name (String.singleton found.letter)
    Sh.modify fun s => { s with nextOption := found.next, optionOffset := found.offset }
    return if found.isDone then 1 else 0
  | _ => Sh.fail "Usage: getopts optstring var [arg...]"

/-! ### Reading lines -/

/-- A line that is read: its characters, the last one first, with whether a backslash stood before
them; and whether it has ended as lines do. -/
def readLineWithin (isRaw : Bool) :
    Nat → Bool → List (Char × Bool) → Sh (List (Char × Bool) × Bool)
  | 0, _, line => return (line, false)
  | steps + 1, isEscaped, line => do
    match ← Sh.ask (.read 0 1) with
    | .error .interrupted =>
      Sh.noteSignals
      if (← Sh.get).caught.isEmpty then readLineWithin isRaw steps isEscaped line
      else return (line, false)
    | .error _ => return (line, false)
    | .ok bytes =>
      match bytes.toList with
      | [] => return (line, false)
      | b :: _ =>
        let c := octet b
        if b = 0 then readLineWithin isRaw steps isEscaped line
        else if isEscaped then
          readLineWithin isRaw steps false
            (if c = '\n' then (argumentEnd, true) :: line else (c, true) :: line)
        else if c = '\\' ∧ !isRaw then readLineWithin isRaw steps true line
        else if c = '\n' then return (line, true)
        else readLineWithin isRaw steps false ((c, false) :: line)

/-- The chunks of a line: what may be split, and between that the characters after backslashes. -/
def lineChunks : List (Char × Bool) → List Char → List Chunk
  | [], run => [.text run.reverse false .separated]
  | (c, false) :: rest, run => lineChunks rest (c :: run)
  | (c, true) :: rest, run =>
    .text run.reverse false .separated ::
      (if c = argumentEnd then lineChunks rest []
       else .text [c] true .whole :: lineChunks rest [])

/-- Sets variables to fields; those without a field become empty. -/
def assignFields : List String → List Field → Sh Unit
  | [], _ => pure ()
  | name :: names, [] => do
    Sh.assign name ""
    assignFields names []
  | name :: names, f :: fs => do
    Sh.assign name f.text
    assignFields names fs

/-- Reads variables from a line. -/
def read (args : List String) : Sh Nat := do
  let (opts, names) ← options "p:r" args
  if names.isEmpty then Sh.fail "arg count"
  let (line, isWhole) ← readLineWithin (opts.any (·.1 = 'r')) 1000000000000 false []
  let fields := splitFields (← Sh.get).separators (some names.length) (lineChunks line.reverse [])
  assignFields names fields
  return if isWhole then 0 else 1

end LuaBundler.Shell.Builtin
