import LuaBundler.Shell.Arithmetic
import LuaBundler.Shell.Job

/-!
# Builtins: options, numbers, leaving

What the commands that a shell does itself have in common: their options, their numbers, and how
they quote what they print. Then those that leave something.
-/

namespace LuaBundler.Shell.Builtin

open LuaBundler.Text

/-- The letters that may be options, each with whether it has an argument. -/
def optionLetters : List Char → List (Char × Bool)
  | [] => []
  | c :: ':' :: cs => (c, true) :: optionLetters cs
  | c :: cs => (c, false) :: optionLetters cs

/-- Reads the options in a word. -/
def optionsInWord (allowed : List (Char × Bool)) :
    List Char → List String → Sh (List (Char × String) × List String)
  | [], args => return ([], args)
  | c :: cs, args => do
    match allowed.lookup c with
    | none => Sh.fail ("Illegal option -" ++ String.singleton c)
    | some false => do
      let (found, args) ← optionsInWord allowed cs args
      return ((c, "") :: found, args)
    | some true =>
      match cs, args with
      | [], [] => Sh.fail ("No arg for -" ++ String.singleton c ++ " option")
      | [], a :: args => return ([(c, a)], args)
      | cs, args => return ([(c, String.ofList cs)], args)

/-- Reads the options before the arguments. -/
def optionsWithin (allowed : List (Char × Bool)) :
    Nat → List String → Sh (List (Char × String) × List String)
  | 0, args => return ([], args)
  | steps + 1, args => do
    match args with
    | [] => return ([], [])
    | arg :: rest =>
      match arg.toList with
      | '-' :: c :: cs =>
        if c = '-' ∧ cs = [] then return ([], rest)
        else
          let (found, rest) ← optionsInWord allowed (c :: cs) rest
          let (more, rest) ← optionsWithin allowed steps rest
          return (found ++ more, rest)
      | _ => return ([], arg :: rest)

/-- Reads the options before the arguments; a letter before a colon has an argument. -/
def options (allowed : String) (args : List String) : Sh (List (Char × String) × List String) :=
  optionsWithin (optionLetters allowed.toList) (args.length + 1) args

/-- The number that digits spell. -/
def decimalOf? (text : String) : Option Nat :=
  if text ≠ "" ∧ text.toList.all Char.isDigit then
    some (text.toList.foldl (fun n c => n * 10 + (c.toNat - 48)) 0)
  else none

/-- Fails because a text is no number. -/
def failNumber {α : Type} (text : String) : Sh α :=
  Sh.fail ("Illegal number: " ++ text)

/-- The whole number that an argument spells; space around it is left out. -/
def wholeNumber (text : String) : Sh Int := do
  let cs := text.toList.dropWhile isSpace
  let (isNegative, ds) := match cs with
    | '-' :: ds => (true, ds)
    | '+' :: ds => (false, ds)
    | ds => (false, ds)
  let (n, rest) := digits 10 ds
  let value : Int := if isNegative then -n else n
  if ds.head?.elim true (fun c => !c.isDigit) || !rest.all isSpace || value < minNumber ||
      maxNumber < value then failNumber text
  else return value

/-- The number that an argument spells, which is neither negative nor large. -/
def number (text : String) : Sh Nat := do
  let n ← wholeNumber text
  if n < 0 ∨ 2147483647 < n then failNumber text else return n.toNat

/-- A text between single quotes, with the single quotes in it between double quotes. -/
def quoteChars : Nat → List Char → List Char
  | 0, _ => []
  | steps + 1, cs =>
    let plain := cs.takeWhile (· ≠ '\'')
    let rest := cs.drop plain.length
    let quotes := rest.takeWhile (· = '\'')
    let rest := rest.drop quotes.length
    '\'' :: plain ++ ['\''] ++
      (if quotes = [] then [] else '"' :: quotes ++ ['"'] ++
        if rest = [] then [] else quoteChars steps rest)

/-- A text between single quotes, with the single quotes in it between double quotes. -/
def quoted (text : String) : String :=
  String.ofList (quoteChars (text.length + 1) text.toList)

/-- Prints variables by name, each after a word. -/
def showVars (before : String) (which : Variable → Bool) : Sh Unit := do
  for (name, v) in (← Sh.get).sortedVars do
    if which v then
      Sh.print (before ++ name ++ (match v.value? with
        | some value => "=" ++ quoted value
        | none => "") ++ "\n")

/-! ### Signals -/

/-- The names of signals by number, from zero. -/
def signalList : List String :=
  "EXIT" :: Process.signalNames ++ ["32", "33", "RTMIN"] ++
    ((List.range 15).map fun n => "RTMIN+" ++ decimal (n + 1)) ++
    ((List.range 14).reverse.map fun n => "RTMAX-" ++ decimal (n + 1)) ++ ["RTMAX"]

/-- The signal of a number. -/
def signalNumber? (text : String) : Option Nat :=
  (decimalOf? text).filter (· ≤ 64)

/-- The signal of a number or a name; what has a name is no less than a bound. -/
def signal? (text : String) (least : Nat) : Option Nat :=
  match signalNumber? text with
  | some n => some n
  | none =>
    let upper := String.ofList (text.toList.map Char.toUpper)
    (signalList.findIdx? (· == upper)).filter fun n => least ≤ n

/-! ### Leaving

Leaving loops, functions and the shell. A loop, a function or a script that is being left is so
noted, and what encloses it acts on that. -/

/-- Leaves loops, or goes on with their next rounds. -/
def leaveLoops (skip : Nat → Skip) (args : List String) : Sh Nat := do
  let count ← match args with
    | [] => pure 1
    | a :: _ => do
      let n ← number a
      if n = 0 then failNumber a else pure n
  let count := min count (← Sh.get).loops
  if 0 < count then Sh.modify fun s => { s with skip := skip count }
  return 0

/-- Leaves a function or a file. -/
def leaveFunction (args : List String) : Sh Nat := do
  match args with
  | [] =>
    Sh.modify fun s => { s with skip := .leaveFunction false }
    return (← Sh.get).status
  | a :: _ =>
    let n ← number a
    Sh.modify fun s => { s with skip := .leaveFunction true }
    return n

/-- Leaves the shell. -/
def exit (args : List String) : Sh Nat := do
  match args with
  | [] => Sh.leave .exit
  | a :: _ =>
    let n ← number a
    Sh.modify fun s => { s with savedStatus? := some n }
    Sh.leave .exit

end LuaBundler.Shell.Builtin
