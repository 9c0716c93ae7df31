import LuaBundler.Shell.Pattern
import LuaBundler.Utility.Launching
import LuaBundler.Utility.Listing

/-!
# Utilities: finding files

Going through directories with all that is in them, and doing something with what meets a criterion.

A criterion is an expression whose parts are met or not, and some of whose parts do something on the
way.
-/

namespace LuaBundler.Utility

open LuaBundler.Files LuaBundler.System LuaBundler.Text

/-- A condition or an action of `find`. -/
inductive Criterion where
  | always
  | never
  | name (pattern : String) (ignoresCase ofPath : Bool)
  | kind (letters : List Char)
  | empty
  | size (order : Ordering) (count unit : Nat)
  | executable
  | newer (time : Nat)
  | modeBits (bits : Nat) (isAll : Bool)
  | print (ending : String)
  | format (text : String)
  | delete
  | prune
  | quit
  | run (args : List String) (isGathered inDir : Bool)
  | not (a : Criterion)
  | and (a b : Criterion)
  | or (a b : Criterion)
  | both (a b : Criterion)

namespace Criterion

/-- Whether a criterion does something, so that nothing is printed by itself. -/
def acts : Criterion → Bool
  | print _ | format _ | delete | run .. | quit => true
  | not a => a.acts
  | and a b | or a b | both a b => a.acts || b.acts
  | _ => false

/-- Whether a criterion removes what it finds, so that what is in a directory comes before it. -/
def deletes : Criterion → Bool
  | delete => true
  | not a => a.deletes
  | and a b | or a b | both a b => a.deletes || b.deletes
  | _ => false

/-- Whether a name matches a pattern. -/
def matchesName (pattern : String) (ignoresCase : Bool) (name : String) : Bool :=
  let fold (cs : List Char) : List Char := if ignoresCase then cs.map Char.toLower else cs
  Shell.Pattern.matches (Shell.Pattern.parse (marksOf (fold pattern.toList))) (fold name.toList)
where
  /-- The characters of a pattern, in which a backslash quotes the next one. -/
  marksOf : List Char → List Shell.Mark
    | '\\' :: c :: cs => (c, true) :: marksOf cs
    | c :: cs => (c, false) :: marksOf cs
    | [] => []

end Criterion

/-! ### Going through directories -/

/-- A file that has been found: its path, the operand that it was found from, its depth, and what is
known of it. -/
structure Candidate where
  path : String
  operand : String
  depth : Nat
  facts : Facts

/-- What is remembered while files are found. -/
structure Finding where
  status : Nat := 0
  isPruned : Bool := false
  isOver : Bool := false
  /-- Paths that are gathered for commands. -/
  gathered : List (List String × List String) := []

/-- What stands before a path in the name of a file in its directory. -/
def localName (path : String) : String :=
  "./" ++ lastName path

/-- The arguments of a command with the path of a file in them. -/
def filledArgs (args : List String) (path : String) : List String :=
  args.map fun a => String.ofList (replaceAll "\x7b\x7d".toList path.toList (a.length + 1) a.toList)

/-- What a letter of a format of `find` stands for. -/
def candidateText (e : Candidate) (c : Char) : String :=
  match c with
  | 'p' => e.path
  | 'f' => lastName e.path
  | 'h' => parentOf e.path
  | 'P' => String.ofList ((e.path.toList.drop e.operand.length).dropWhile (· = '/'))
  | 's' => decimal e.facts.size
  | 'd' => decimal e.depth
  | 'y' => if e.facts.kind = .file then "f" else kindLetter e.facts.kind
  | 'm' => String.ofList (Nat.toDigits 8 e.facts.mode)
  | '%' => "%"
  | c => "%" ++ String.singleton c

/-- Whether a file meets a criterion, whose actions are done. -/
def meet (c : Call) : Criterion → Candidate → Finding → Action (Bool × Finding)
  | .always, _, st => return (true, st)
  | .never, _, st => return (false, st)
  | .name pattern ignoresCase ofPath, e, st =>
    return (Criterion.matchesName pattern ignoresCase (if ofPath then e.path else lastName e.path), st)
  | .kind letters, e, st =>
    return (letters.contains (if e.facts.kind = .file then 'f'
      else ((kindLetter e.facts.kind).toList.headD 'f')), st)
  | .empty, e, st => do
    if e.facts.kind = .file then return (e.facts.size = 0, st)
    else if e.facts.kind = .dir then
      match ← ask (.names e.path) with
      | .ok names => return (names.isEmpty, st)
      | .error _ => return (false, st)
    else return (false, st)
  | .size order count unit, e, st =>
    return (compare ((e.facts.size + unit - 1) / unit) count == order, st)
  | .executable, e, st => return (e.facts.mode &&& 0o111 ≠ 0, st)
  | .newer time, e, st => return (time < e.facts.modified, st)
  | .modeBits bits isAll, e, st =>
    return (if isAll then e.facts.mode &&& bits == bits else e.facts.mode == bits, st)
  | .print ending, e, st => do
    discard (write 1 (e.path ++ ending))
    return (true, st)
  | .format text, e, st => do
    discard (write 1 (fillFormat (candidateText e) true (text.length + 1) text.toList))
    return (true, st)
  | .delete, e, st => do
    if e.path = "." then return (true, st)
    else
      match ← change (if e.facts.kind = .dir then .removeDir e.path else .removeFile e.path) with
      | none => return (true, st)
      | some failure =>
        c.complain ("cannot delete " ++ cited e.path ++ ": " ++ failure.reason)
        return (false, { st with status := 1 })
  | .prune, _, st => return (true, { st with isPruned := true })
  | .quit, _, st => return (true, { st with isOver := true })
  | .run args isGathered inDir, e, st => do
    if isGathered then
      let paths := (st.gathered.lookup args).getD []
      return (true, { st with
        gathered := (args, paths ++ [e.path]) :: st.gathered.filter (·.1 != args) })
    else
      let path := if inDir then localName e.path else e.path
      let here ← workingDir
      if inDir then discard (ask (.enterDir (parentOf e.path)))
      let ended ← runProgram c (filledArgs args path) c.env none
      if inDir then discard (ask (.enterDir here))
      return ((ended.map endedStatus) = some 0, st)
  | .not a, e, st => do
    let (met, st) ← meet c a e st
    return (!met, st)
  | .and a b, e, st => do
    let (met, st) ← meet c a e st
    if met && !st.isOver then meet c b e st else return (met, st)
  | .or a b, e, st => do
    let (met, st) ← meet c a e st
    if met || st.isOver then return (met, st) else meet c b e st
  | .both a b, e, st => do
    let (_, st) ← meet c a e st
    meet c b e st

/-- How `find` goes through directories. -/
structure Journey where
  criterion : Criterion
  least : Nat
  most : Option Nat
  isDeepFirst : Bool
  follows : Bool

/-- Looks at an entry that has been found. -/
def judge (c : Call) (j : Journey) (e : Candidate) (st : Finding) : Action Finding := do
  if e.depth < j.least then return st
  else
    let (_, st) ← meet c j.criterion e st
    return st

/-- Goes through what is below a path. -/
def visit (c : Call) (j : Journey) (operand : String) :
    Nat → Nat → String → Finding → Action Finding
  | 0, _, _, st => return st
  | fuel + 1, depth, path, st => do
    if st.isOver then return st
    else match ← ask (.facts path j.follows) with
    | .error e =>
      c.complain (cited path ++ ": " ++ e.reason)
      return { st with status := 1 }
    | .ok f =>
      let e : Candidate := ⟨path, operand, depth, f⟩
      let st := { st with isPruned := false }
      let st ← if j.isDeepFirst then pure st else judge c j e st
      let isAtEnd := match j.most with
        | some most => most ≤ depth
        | none => false
      let st ← if f.kind ≠ .dir || isAtEnd || st.isPruned || st.isOver then pure st
        else match ← ask (.names path) with
        | .error e =>
          c.complain (cited path ++ ": " ++ e.reason)
          pure { st with status := 1 }
        | .ok names => visitAll fuel (depth + 1) path names st
      if j.isDeepFirst then judge c j e st else return { st with isPruned := false }
where
  /-- Goes through the entries of a directory. -/
  visitAll (fuel depth : Nat) (path : String) : List String → Finding → Action Finding
    | [], st => return st
    | name :: names, st => do
      let st ← visit c j operand fuel depth (joinPath path name) st
      visitAll fuel depth path names st

/-! ### Reading criteria -/

/-- The criteria of an expression that is read, with what is set for the whole journey. -/
structure CriterionReader where
  words : List String
  least : Nat := 0
  most : Option Nat := none
  isDeepFirst : Bool := false
  failure : Option String := none

/-- Takes the argument of a word. -/
def takeArgument (word : String) (r : CriterionReader) : Except String (String × CriterionReader) :=
  match r.words with
  | a :: rest => .ok (a, { r with words := rest })
  | [] => .error ("missing argument to " ++ quotedWord word)
where
  /-- A word in a complaint. -/
  quotedWord (w : String) : String := "\x60" ++ w ++ "'"

/-- The number of an argument with a sign: whether it is a bound, and from which side. -/
def bounded? (text : String) : Option (Ordering × Nat) :=
  match text.toList with
  | '+' :: cs => (natural? (String.ofList cs)).map (.gt, ·)
  | '-' :: cs => (natural? (String.ofList cs)).map (.lt, ·)
  | _ => (natural? text).map (.eq, ·)

/-- The criterion of a size. -/
def sizeCriterion? (text : String) : Option Criterion :=
  let (body, unit) := match text.toList.reverse with
    | 'c' :: cs => (cs.reverse, 1)
    | 'w' :: cs => (cs.reverse, 2)
    | 'k' :: cs => (cs.reverse, 1024)
    | 'M' :: cs => (cs.reverse, 1048576)
    | 'G' :: cs => (cs.reverse, 1073741824)
    | 'b' :: cs => (cs.reverse, 512)
    | cs => (cs.reverse, 512)
  (bounded? (String.ofList body)).map fun b => .size b.1 b.2 unit

/-- Takes the arguments of a command up to its end; gives whether paths are gathered for it. -/
def takeCommand (word : String) : List String → List String → Except String (List String × Bool × List String)
  | _, [] => .error ("missing argument to \x60" ++ word ++ "'")
  | taken, a :: rest =>
    if a = ";" then .ok (taken.reverse, false, rest)
    else if a = "+" ∧ taken.head? = some "\x7b\x7d" then .ok (taken.reverse, true, rest)
    else takeCommand word (a :: taken) rest

/-- Reads one test or action. -/
def readTest (word : String) (r : CriterionReader) : Except String (Criterion × CriterionReader) := do
  let text (f : String → Except String Criterion) : Except String (Criterion × CriterionReader) := do
    let (a, r) ← takeArgument word r
    return (← f a, r)
  let number (f : Nat → CriterionReader → CriterionReader) :
      Except String (Criterion × CriterionReader) := do
    let (a, r) ← takeArgument word r
    match natural? a with
    | some n => return (.always, f n r)
    | none => .error ("Expected a positive decimal integer argument to " ++ word ++ ", but got " ++
        cited a)
  match word with
  | "-name" => text fun a => .ok (.name a false false)
  | "-iname" => text fun a => .ok (.name a true false)
  | "-path" | "-wholename" => text fun a => .ok (.name a false true)
  | "-ipath" => text fun a => .ok (.name a true true)
  | "-type" => text fun a => .ok (.kind (a.toList.filter (· ≠ ',')))
  | "-size" => text fun a =>
    match sizeCriterion? a with
    | some k => .ok k
    | none => .error ("invalid -size type \x60" ++ a ++ "'")
  | "-perm" => text fun a =>
    let (cs, isAll) := match a.toList with
      | '-' :: cs => (cs, true)
      | cs => (cs, false)
    match Mode.ofText? (String.ofList cs) false 0 0 with
    | some n => .ok (.modeBits n isAll)
    | none => .error ("invalid mode " ++ cited a)
  | "-maxdepth" => number fun n r => { r with most := some n }
  | "-mindepth" => number fun n r => { r with least := n }
  | "-depth" | "-d" => return (.always, { r with isDeepFirst := true })
  | "-empty" => return (.empty, r)
  | "-executable" => return (.executable, r)
  | "-readable" | "-writable" | "-true" | "-follow" | "-xdev" | "-mount" => return (.always, r)
  | "-false" => return (.never, r)
  | "-print" => return (.print "\n", r)
  | "-print0" => return (.print "\x00", r)
  | "-printf" => text fun a => .ok (.format a)
  | "-delete" => return (.delete, { r with isDeepFirst := true })
  | "-prune" => return (.prune, r)
  | "-quit" => return (.quit, r)
  | "-exec" | "-execdir" | "-ok" => do
    let (args, isGathered, rest) ← takeCommand word [] r.words
    let args := if isGathered then args.dropLast else args
    return (.run args isGathered (word = "-execdir"), { r with words := rest })
  | _ =>
    if word.startsWith "-" then .error ("unknown predicate \x60" ++ word ++ "'")
    else .error ("paths must precede expression: \x60" ++ word ++ "'")

/-- Reads an expression of criteria of a rank: a list, an alternative, a conjunction, or one. -/
def readCriterion : Nat → Nat → CriterionReader → Except String (Criterion × CriterionReader)
  | 0, _, _ => .error "expression too long"
  | fuel + 1, 0, r => do
    let (a, r) ← readCriterion fuel 1 r
    match r.words with
    | "," :: rest =>
      let (b, r) ← readCriterion fuel 0 { r with words := rest }
      return (.both a b, r)
    | _ => return (a, r)
  | fuel + 1, 1, r => do
    let (a, r) ← readCriterion fuel 2 r
    match r.words with
    | word :: rest =>
      if word = "-o" ∨ word = "-or" then
        let (b, r) ← readCriterion fuel 1 { r with words := rest }
        return (.or a b, r)
      else return (a, r)
    | [] => return (a, r)
  | fuel + 1, 2, r => do
    let (a, r) ← readCriterion fuel 3 r
    match r.words with
    | [] => return (a, r)
    | word :: rest =>
      if word = ")" ∨ word = "-o" ∨ word = "-or" ∨ word = "," then return (a, r)
      else
        let words := if word = "-a" ∨ word = "-and" then rest else r.words
        let (b, r) ← readCriterion fuel 2 { r with words }
        return (.and a b, r)
  | fuel + 1, _ + 3, r =>
    match r.words with
    | [] => .error "expected an expression"
    | word :: rest => do
      let r := { r with words := rest }
      if word = "!" ∨ word = "-not" then
        let (a, r) ← readCriterion fuel 3 r
        return (.not a, r)
      else if word = "(" then
        let (a, r) ← readCriterion fuel 0 r
        match r.words with
        | ")" :: rest => return (a, { r with words := rest })
        | _ => .error "invalid expression; I was expecting to find a ')' somewhere but did not see one."
      else if word = "-newer" then
        let (_, r) ← takeArgument word r
        return (.always, r)
      else readTest word r

/-- Whether a word starts an expression. -/
def startsCriterion (word : String) : Bool :=
  (word.startsWith "-" && 1 < word.length) || word = "(" || word = "!" || word = ")" || word = ","

/-- Runs the commands that paths have been gathered for. -/
def runGathered (c : Call) (status : Nat) : List (List String × List String) → Action Nat
  | [] => return status
  | (args, paths) :: rest => do
    let ended ← runProgram c (args ++ paths) c.env none
    runGathered c (if (ended.map endedStatus) = some 0 then status else 1) rest

/-- Goes through operands one after the other. -/
def visitOperands (c : Call) (j : Journey) : List String → Finding → Action Finding
  | [], st => return st
  | path :: paths, st => do
    let st ← visit c j path 10000 0 path st
    visitOperands c j paths st

/-- Finds files. -/
def find : Program := fun c => do
  let leading := c.args.takeWhile fun a => a = "-L" || a = "-P" || a = "-H"
  let args := c.args.drop leading.length
  let paths := args.takeWhile fun a => !startsCriterion a
  let words := args.drop paths.length
  let read : Except String (Criterion × CriterionReader) :=
    if words.isEmpty then .ok (.always, { words := [] })
    else readCriterion (8 * words.length + 16) 0 { words }
  match read with
  | .error reason => c.fail 1 reason
  | .ok (k, r) =>
    match r.words with
    | word :: _ => c.fail 1 ("invalid expression; you have used " ++ cited word)
    | [] =>
      let criterion := if k.acts then k else .and k (.print "\n")
      let j : Journey := ⟨criterion, r.least, r.most, r.isDeepFirst, leading.contains "-L"⟩
      let st ← visitOperands c j (if paths.isEmpty then ["."] else paths) {}
      runGathered c st.status st.gathered

end LuaBundler.Utility
