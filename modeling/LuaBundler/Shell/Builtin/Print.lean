import LuaBundler.Shell.Arithmetic
import LuaBundler.Shell.Builtin.Basic
import LuaBundler.Utility.Format

/-!
# Builtins: printing

Printing arguments as they are, and printing them as a format says. Backslashes in what is printed
stand for octets; one of them ends all printing.
-/

namespace LuaBundler.Shell.Builtin

open LuaBundler.Text LuaBundler.Utility

/-! ### Escapes -/

/-- The octet after a backslash in a format, and what follows it. An unknown letter stays. -/
def formatEscape (cs : List Char) : Char × List Char :=
  match cs with
  | [] => ('\\', [])
  | c :: rest =>
    if '0' ≤ c ∧ c ≤ '7' then octalOctet 3 cs
    else match escapeLetter? c with
      | some d => (d, rest)
      | none => ('\\', cs)

/-- A text with its backslashes replaced, and whether one of them ends all printing. -/
def unescapeWithin : Nat → List Char → List Char × Bool
  | 0, _ => ([], false)
  | steps + 1, cs =>
    match cs with
    | [] => ([], false)
    | '\\' :: 'c' :: _ => ([], true)
    | '\\' :: rest =>
      let digits := match rest with
        | '0' :: d :: more => if '0' ≤ d ∧ d ≤ '7' then d :: more else rest
        | _ => rest
      let (c, rest) := formatEscape digits
      let (text, stops) := unescapeWithin steps rest
      (c :: text, stops)
    | c :: rest =>
      let (text, stops) := unescapeWithin steps rest
      (c :: text, stops)

/-- A text with its backslashes replaced, and whether one of them ends all printing. -/
def unescape (text : String) : String × Bool :=
  if text.toList.contains '\\' then
    let (cs, stops) := unescapeWithin (text.length + 1) text.toList
    (String.ofList cs, stops)
  else (text, false)

/-- Prints words with spaces between them. -/
def echoWords (ending : String) : List String → Sh Unit
  | [] => Sh.print ending
  | w :: ws => do
    let (text, stops) := unescape w
    Sh.print text
    if stops then pure ()
    else
      if !ws.isEmpty then Sh.print " "
      echoWords ending ws

/-- Prints its arguments. -/
def echo (args : List String) : Sh Nat := do
  match args with
  | "-n" :: rest => echoWords "" rest
  | args => echoWords "\n" args
  return 0

/-! ### Formats -/

/-- Printing as a format says: the arguments that are left, and the status. -/
structure Printing where
  args : List String
  status : Nat := 0

/-- Takes an argument, if one is left. -/
def takeArg (p : Printing) : Option String × Printing :=
  match p.args with
  | [] => (none, p)
  | a :: args => (some a, { p with args })

/-- Complains of an argument that is no number. -/
def checkNumber (text : String) (rest : List Char) (isWhole isTooLarge : Bool) (p : Printing) :
    Sh Printing := do
  if !rest.isEmpty then
    Sh.complain (text ++ (if isWhole then ": expected numeric value" else
      ": not completely converted"))
    return { p with status := 1 }
  else if isTooLarge then
    Sh.complain (text ++ ": Numerical result out of range")
    return { p with status := 1 }
  else return p

/-- The number that an argument spells, as far as it spells one, and what follows. -/
def numberStart (text : String) : Bool × Nat × List Char :=
  let cs := text.toList.dropWhile isSpace
  let (isNegative, cs) := match cs with
    | '-' :: cs => (true, cs)
    | '+' :: cs => (false, cs)
    | cs => (false, cs)
  if cs.head?.elim false Char.isDigit then
    let (n, rest) := unsigned cs
    (isNegative, n, rest)
  else (false, 0, text.toList)

/-- Takes a whole number. -/
def takeInteger (isSigned : Bool) (p : Printing) : Sh (Int × Printing) := do
  match takeArg p with
  | (none, p) => return (0, p)
  | (some text, p) =>
    match text.toList with
    | '"' :: rest => return ((rest.head?.elim 0 Char.toNat : Nat), p)
    | '\'' :: rest => return ((rest.head?.elim 0 Char.toNat : Nat), p)
    | cs =>
      let (isNegative, n, rest) := numberStart text
      let value : Int := if isNegative then -n else n
      let tooLarge := if isSigned then value < minNumber || maxNumber < value
        else 18446744073709551615 < n
      let p ← checkNumber text rest (rest = cs) tooLarge p
      if isSigned then return (clamp value, p)
      else return (if tooLarge then 18446744073709551615 else value % 18446744073709551616, p)

/-- Takes a number with a point. -/
def takeReal (p : Printing) : Sh (RealNumber × Printing) := do
  match takeArg p with
  | (none, p) => return (.zero, p)
  | (some text, p) =>
    match text.toList with
    | '"' :: rest => return (.ofNat (rest.head?.elim 0 Char.toNat), p)
    | '\'' :: rest => return (.ofNat (rest.head?.elim 0 Char.toNat), p)
    | cs =>
      match RealNumber.read? 53 cs with
      | none => return (.zero, ← checkNumber text cs true false p)
      | some (r, rest) => return (r, ← checkNumber text rest false false p)

/-- The number of a directive, which an argument may give. -/
def takeAmount (a : Amount) (p : Printing) : Sh (Option Int × Printing) := do
  match a with
  | .none => return (none, p)
  | .given n => return (some n, p)
  | .argument =>
    let (n, p) ← takeInteger true p
    return (some n, p)

/-- Prints what a directive says; gives whether all printing ends. -/
def printDirective (layout : Layout) (letter : Char) (source : String) (p : Printing) :
    Sh (Bool × Printing) := do
  match letter with
  | 'b' =>
    let (arg, p) := takeArg p
    let (text, stops) := unescape (arg.getD "")
    Sh.print (layout.string text)
    return (stops, p)
  | 'c' =>
    let (arg, p) := takeArg p
    let c := (arg.getD "").toList.head?.getD argumentEnd
    Sh.print (layout.pad (String.singleton c))
    return (false, p)
  | 's' =>
    let (arg, p) := takeArg p
    Sh.print (layout.string (arg.getD ""))
    return (false, p)
  | _ =>
    if "di".toList.contains letter then
      let (n, p) ← takeInteger true p
      Sh.print (layout.integer n)
      return (false, p)
    else if "ouxX".toList.contains letter then
      let (n, p) ← takeInteger false p
      Sh.print (layout.word letter n.toNat)
      return (false, p)
    else if "aAeEfFgG".toList.contains letter then
      let (r, p) ← takeReal p
      Sh.print (layout.real letter r)
      return (false, p)
    else Sh.fail (source ++ ": invalid directive")
where
  /-- What is printed for a character that is not there. -/
  argumentEnd : Char := '\x00'

/-- Prints a format once; gives whether all printing ends. -/
def printOnce : Nat → List Char → Printing → Sh (Bool × Printing)
  | 0, _, p => return (true, p)
  | steps + 1, cs, p => do
    match cs with
    | [] => return (false, p)
    | '\\' :: rest =>
      let (c, rest) := formatEscape rest
      Sh.print (String.singleton c)
      printOnce steps rest p
    | '%' :: '%' :: rest =>
      Sh.print "%"
      printOnce steps rest p
    | '%' :: rest =>
      let (flags, width, places, rest') := Directive.readStart Directive.flagLetters rest
      let (width?, p) ← takeAmount width p
      let (places?, p) ← takeAmount places p
      match rest' with
      | [] => Sh.fail "missing format character"
      | letter :: rest' =>
        let w := width?.getD 0
        let layout : Layout := {
          flags := if w < 0 then '-' :: flags else flags
          width := w.natAbs
          places := places?.bind fun n => if n < 0 then none else some n.toNat }
        let source := '%' :: rest.take (rest.length - rest'.length)
        let (stops, p) ← printDirective layout letter (String.ofList source) p
        if stops then return (true, p) else printOnce steps rest' p
    | c :: rest =>
      let plain := (c :: rest).takeWhile fun c => c ≠ '\\' && c ≠ '%'
      Sh.print (String.ofList plain)
      printOnce steps ((c :: rest).drop plain.length) p

/-- Prints a format as often as there are arguments for it. -/
def printFormat (format : List Char) : Nat → Printing → Sh Nat
  | 0, p => return p.status
  | steps + 1, p => do
    let before := p.args.length
    let (stops, p) ← printOnce (format.length + 1) format p
    if stops || p.args.isEmpty || p.args.length = before then return p.status
    else printFormat format steps p

/-- Prints arguments as a format says. -/
def printf (args : List String) : Sh Nat := do
  let (_, args) ← options "" args
  match args with
  | [] => Sh.fail "usage: printf format [arg ...]"
  | format :: args => printFormat format.toList (args.length + 1) ⟨args, 0⟩

end LuaBundler.Shell.Builtin
