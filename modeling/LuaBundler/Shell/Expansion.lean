import LuaBundler.Shell.Fields
import LuaBundler.Shell.State

/-!
# Expansion

What a word stands for when a command runs. Parameters, nested commands and expressions are replaced
by their values; what comes of that may be split into fields, and fields that are patterns are
replaced by the paths that match them. A tilde that starts a word, or a part of the value of an
assignment, stands for a home directory.

How the output of a nested command is found is a parameter (`Substitution`).
-/

namespace LuaBundler.Shell

open LuaBundler.System LuaBundler.Text

/-- The output of a nested command. -/
abbrev Substitution := Option Node → Sh (List Char)

/-- Where a tilde stands for a home directory. -/
inductive Tildes where
  | nowhere
  /-- At the start. -/
  | start
  /-- After the first equals sign, and after colons from there on. -/
  | value
  /-- After colons. -/
  | colons
  deriving DecidableEq

/-- How pieces are expanded. -/
structure Style where
  /-- Whether fields are made of the result. -/
  makesFields : Bool := false
  /-- Whether plain characters may be split as well. -/
  splitsPlain : Bool := false
  isQuoted : Bool := false
  tildes : Tildes := .nowhere

namespace Expand

/-! ### Parameters -/

/-- What a text of a value is as a chunk. -/
def valueChunk (style : Style) (cs : List Char) : Chunk :=
  .text cs style.isQuoted (if style.isQuoted then .whole else .separated)

/-- What stands between the arguments when they are expanded at once, if anything does. -/
def argumentSeparator (style : Style) (isList : Bool) (ifs : Option String) : List Char :=
  if style.makesFields ∧ (isList ∨ !style.isQuoted) then
    if style.isQuoted ∨ ifs.isSome then [argumentEnd] else [' ']
  else match ifs with
    | some text => text.toList.take 1
    | none => [' ']

/-- The texts of a list with something between each two. -/
def joined (separator : List Char) : List String → List Char
  | [] => []
  | [t] => t.toList
  | t :: ts => t.toList ++ separator ++ joined separator ts

/-- The number that digits spell. -/
def parameterNumber (cs : List Char) : Nat :=
  (digits 10 cs).1

/-- The value of a parameter, if it has one. -/
def parameter? (style : Style) (name : String) (s : Shell) : Option (List Char) :=
  match name with
  | "$" => some (decimal s.rootProcess).toList
  | "?" => some (decimal s.status).toList
  | "#" => some (decimal s.params.length).toList
  | "!" => if s.lastBackground = 0 then none else some (decimal s.lastBackground).toList
  | "-" => some s.optionLetters.toList
  | "@" => some (joined (argumentSeparator style true (s.get? "IFS")) s.params)
  | "*" => some (joined (argumentSeparator style false (s.get? "IFS")) s.params)
  | name =>
    if (name.toList.head?.elim false Char.isDigit) then
      match parameterNumber name.toList with
      | 0 => some s.name.toList
      | n + 1 => s.params[n]?.map String.toList
    else (s.get? name).map String.toList

/-- The chunk of the value of a parameter. Arguments that are quoted stay apart. -/
def parameterChunks (style : Style) (name : String) (s : Shell) (cs : List Char) : List Chunk :=
  if style.isQuoted then
    if name = "@" ∧ s.params ≠ [] then
      [.text cs true (if style.makesFields then .arguments else .whole)]
    else [.text cs true .whole]
  else [valueChunk style cs]

/-- Fails because a parameter has no value. -/
def failUnset {α : Type} (name : String) (orNull : Bool) : Sh α :=
  Sh.fail (name ++ ": parameter not set" ++ if orNull then " or null" else "")

/-- Whether a parameter without a value is an error. -/
def mustBeSet (name : String) : Sh Bool := do
  return (← Sh.has "nounset") && name != "@" && name != "*"

/-! ### Tildes -/

/-- The home directory of the system's own user. -/
def rootHome : String := "/root"

/-- The home directory of a user, if it is known. -/
def home? (s : Shell) (user : String) : Option String :=
  if user = "" then s.get? "HOME"
  else if user = "root" then some rootHome
  else none

/-- The user that follows a tilde, if the tilde stands for a home directory, and what comes after. -/
def tildeUser? (inValue : Bool) : List Piece → Option (List Char × List Piece)
  | [] => some ([], [])
  | .char c false :: rest =>
    if c = '/' ∨ (inValue ∧ c = ':') then some ([], .char c false :: rest)
    else (tildeUser? inValue rest).map fun r => (c :: r.1, r.2)
  | _ => none

/-- The home directory that pieces start with, if they start with one, and the rest. -/
def tilde? (s : Shell) (inValue : Bool) (pieces : List Piece) : Option (List Char × List Piece) :=
  match pieces with
  | .char '~' false :: rest => do
    let (user, rest) ← tildeUser? inValue rest
    let home ← home? s (String.ofList user)
    return (home.toList, rest)
  | _ => none

/-! ### Pieces -/

/-- The plain characters that pieces start with, up to one after which a tilde may stand. -/
def plainRun (tildes : Tildes) : List Piece → List Char × List Piece
  | .char c false :: rest =>
    if (tildes = .value ∧ c = '=') ∨ (tildes = .colons ∧ c = ':') then ([c], rest)
    else
      let (cs, rest) := plainRun tildes rest
      (c :: cs, rest)
  | rest => ([], rest)

/-- The quoted characters that pieces start with. -/
def quotedRun : List Piece → List Char × List Piece
  | .char c true :: rest =>
    let (cs, rest) := quotedRun rest
    (c :: cs, rest)
  | rest => ([], rest)

/-- A text without the line ends at its end. -/
def dropLineEnds (cs : List Char) : List Char :=
  (cs.reverse.dropWhile (· = '\n')).reverse

/-- The value of an expression. -/
def arithmeticValue (text : List Char) : Sh (List Char) := do
  let s ← Sh.get
  let (assigned, result) := Arithmetic.evaluate s.get? text
  for (name, n) in assigned do
    Sh.assign name (numberText n)
  match result with
  | .ok n => return (numberText n).toList
  | .error (.notNumber t) => Sh.fail ("Illegal number: " ++ t)
  | .error (.reason r) =>
    Sh.fail ("arithmetic expression: " ++ r ++ ": " ++ quotedName (String.ofList text))
  | .error .trap => do
    let (id, _) ← Sh.ask .identity
    discard (Sh.ask (.send id 8))
    Sh.exit 136
  | .error .tooDeep => Sh.fail "arithmetic expression: too deep"

/-- Expands pieces; `inMarks` says whether they are between quotation marks, and `inTilde` whether a
tilde may stand at their start. -/
def piecesWithin (sub : Substitution) :
    Nat → Style → Bool → Bool → List Piece → Sh (List Chunk)
  | 0, _, _, _, _ => return []
  | depth + 1, style, inMarks, inTilde, pieces => do
    let again := piecesWithin sub depth
    let inner := { style with isQuoted := style.isQuoted || inMarks }
    let s ← Sh.get
    match (if inTilde then tilde? s (style.tildes = .colons) pieces else none) with
    | some (home, rest) =>
      return .text home true .whole :: (← again style inMarks false rest)
    | none =>
    match pieces with
    | [] => return []
    | .mark :: .parameter "@" .plain strict word :: .mark :: rest =>
      if inMarks then
        return .mark :: (← again style false false (.parameter "@" .plain strict word :: .mark :: rest))
      else
        let value ← parameter again { style with isQuoted := true } "@" .plain strict word
        return value ++ (← again style inMarks false rest)
    | .mark :: rest => return .mark :: (← again style (!inMarks) false rest)
    | .char c true :: rest =>
      let (cs, rest) := quotedRun (.char c true :: rest)
      return .text cs true .whole :: (← again style inMarks false rest)
    | .char c false :: rest =>
      let (cs, rest) := plainRun style.tildes (.char c false :: rest)
      let region := if style.splitsPlain ∧ !style.isQuoted ∧ !inMarks then .separated else .whole
      let atTilde := style.tildes = .value && cs.getLast? = some '=' ||
        style.tildes = .colons && cs.getLast? = some ':'
      let style := if style.tildes = .value && cs.getLast? = some '=' then
        { style with tildes := .colons } else style
      return .text cs false region :: (← again style inMarks atTilde rest)
    | .parameter name form strict word :: rest =>
      let value ← parameter again inner name form strict word
      return value ++ (← again style inMarks false rest)
    | .command body :: rest =>
      let cs := dropLineEnds (← sub body)
      return valueChunk inner cs :: (← again style inMarks false rest)
    | .arithmetic text :: rest =>
      let text := chunkText (← again {} false false text)
      let cs ← arithmeticValue text
      return valueChunk inner cs :: (← again style inMarks false rest)
where
  /-- Expands a parameter. -/
  parameter (again : Style → Bool → Bool → List Piece → Sh (List Chunk)) (style : Style)
      (name : String) (form : Form) (strict : Bool) (word : List Piece) : Sh (List Chunk) := do
    let s ← Sh.get
    let value? := (parameter? style name s).filter fun cs => !(strict && cs.isEmpty)
    let wordStyle := { style with splitsPlain := true, tildes := .start }
    let single : Style := { tildes := .start }
    let wordText : Sh String := do
      return String.ofList (chunkText (← again { single with isQuoted := style.isQuoted } false true
        word))
    match form, value? with
    | .bad, _ => Sh.fail "Bad substitution"
    | .plain, some cs => return parameterChunks style name s cs
    | .plain, none =>
      if ← mustBeSet name then failUnset name false else return parameterChunks style name s []
    | .otherwise, some cs => return parameterChunks style name s cs
    | .otherwise, none => again wordStyle false true word
    | .instead, some _ => again wordStyle false true word
    | .instead, none => return parameterChunks style name s []
    | .assign, some cs => return parameterChunks style name s cs
    | .assign, none => do
      let text ← wordText
      Sh.assign name text
      let s ← Sh.get
      return parameterChunks style name s ((parameter? style name s).getD [])
    | .demand, some cs => return parameterChunks style name s cs
    | .demand, none => do
      if word.isEmpty then failUnset name strict
      else Sh.fail (name ++ ": " ++ (← wordText))
    | .length, some cs => return [valueChunk style (decimal cs.length).toList]
    | .length, none =>
      if ← mustBeSet name then failUnset name false
      else return [valueChunk style ['0']]
    | .dropStart longest, some cs => do
      let pattern := Pattern.parse (chunkMarks (← again single false true word))
      return parameterChunks style name s (Pattern.dropStart pattern longest cs)
    | .dropEnd longest, some cs => do
      let pattern := Pattern.parse (chunkMarks (← again single false true word))
      return parameterChunks style name s (Pattern.dropEnd pattern longest cs)
    | _, none =>
      if ← mustBeSet name then failUnset name false else return parameterChunks style name s []

/-- The number of pieces that are expanded at most. -/
def maxPieces : Nat := 1000000000000

/-- Expands pieces. -/
def pieces (sub : Substitution) (style : Style) (w : Word) : Sh (List Chunk) :=
  piecesWithin sub maxPieces style false (style.tildes = .start) w

/-! ### Paths that match -/

/-- A part of a path pattern between slashes, and the slashes after it. -/
structure Step where
  pattern : List Mark
  slashes : List Char

/-- Whether an opening bracket is closed before the next slash. -/
def closesBracket : List Mark → Bool
  | [] => false
  | (c, isQuoted) :: rest =>
    if c = '/' then false
    else if c = ']' ∧ !isQuoted then true
    else closesBracket rest

/-- Whether a pattern stands for more than itself. -/
def isOpen : List Mark → Bool
  | [] => false
  | (c, isQuoted) :: rest =>
    if isQuoted then isOpen rest
    else if c = '*' ∨ c = '?' then true
    else if c = '[' then closesBracket (afterFirst rest) || isOpen rest
    else isOpen rest
where
  /-- What follows the first character of a set. -/
  afterFirst : List Mark → List Mark
    | ('!', false) :: rest => rest.drop 1
    | rest => rest.drop 1

/-- The parts of a path pattern. -/
def steps : List Mark → List Step
  | [] => [⟨[], []⟩]
  | m :: ms =>
    if m.1 = '/' then ⟨[], ['/']⟩ :: steps ms
    else match steps ms with
      | s :: rest => ⟨m :: s.pattern, s.slashes⟩ :: rest
      | [] => [⟨[m], []⟩]

/-- The characters of a part as a path. -/
def Step.text (s : Step) : List Char :=
  s.pattern.map (·.1) ++ s.slashes

/-- Whether a pattern may match names that start with a dot. -/
def startsWithDot (pattern : List Mark) : Bool :=
  pattern.head?.elim false (·.1 = '.')

/-- The paths that match, below what has been found. -/
def matchSteps : List Char → List Step → Sh (List String)
  | found, [] => do
    if found = [] then return []
    match ← Sh.ask (.facts (String.ofList found) false) with
    | .ok _ => return [String.ofList found]
    | .error _ => return []
  | found, s :: rest => do
    if !isOpen s.pattern then matchSteps (found ++ s.text) rest
    else
      let dir := if found = [] then "." else String.ofList found
      match ← Sh.ask (.names dir) with
      | .error _ => return []
      | .ok names =>
        let pattern := Pattern.parse s.pattern
        let names := (if startsWithDot s.pattern then [".", ".."] else []) ++ names
        let matching := names.filter fun name =>
          (name.toList.head? ≠ some '.' || startsWithDot s.pattern) &&
            Pattern.matches pattern name.toList
        if rest.isEmpty ∧ s.slashes = [] then
          return matching.map fun name => String.ofList (found ++ name.toList)
        else
          let mut all := []
          for name in matching do
            all := all ++ (← matchSteps (found ++ name.toList ++ s.slashes) rest)
          return all

/-- The paths that a field stands for: those that match it, in order, or else the field itself. -/
def paths (f : Field) : Sh (List String) := do
  if (← Sh.has "noglob") || !isOpen f.marks then return [f.text]
  else
    match ← matchSteps [] (steps f.marks) with
    | [] => return [f.text]
    | found => return found.mergeSort fun a b => a ≤ b

/-! ### Words -/

/-- The fields of a word. -/
def fields (sub : Substitution) (w : Word) : Sh (List String) := do
  if w.isBare then
    match w.bare with
    | [] => pure ()
    | '~' :: _ => pure ()
    | cs => if cs.all fun c => c ≠ '*' && c ≠ '?' && c ≠ '[' then return [String.ofList cs]
  let chunks ← pieces sub { makesFields := true, tildes := .start } w
  let found := splitFields (← Sh.get).separators none chunks
  let mut all := []
  for f in found do
    all := all ++ (← paths f)
  return all

/-- The text of a word that is not split. -/
def text (sub : Substitution) (tildes : Tildes) (w : Word) : Sh String := do
  return String.ofList (chunkText (← pieces sub { tildes } w))

/-- The text of a here-document. -/
def document (sub : Substitution) (w : Word) : Sh String := do
  return String.ofList (chunkText (← pieces sub { isQuoted := true } w))

/-- The pattern of a word. -/
def pattern (sub : Substitution) (w : Word) : Sh (List Pattern.Element) := do
  return Pattern.parse (chunkMarks (← pieces sub { tildes := .start } w))

end Expand

end LuaBundler.Shell
