import LuaBundler.Utility.Format
import LuaBundler.Utility.Options
import LuaBundler.Utility.Values

/-!
# Utilities: formatted printing

Printing arguments as a format says, again and again until all of them are used. What has been
printed when something is complained of comes before the complaint.
-/

namespace LuaBundler.Utility

open LuaBundler.Files LuaBundler.System LuaBundler.Text

/-- Something that is printed, or complained of. -/
inductive Utterance where
  | text (s : String)
  | complaint (s : String)

/-- Printing as a format says: what has been printed and complained of, the last of it first, the
arguments that are left, and the status. -/
structure Printing where
  said : List Utterance := []
  args : List String
  status : Nat := 0
  isOver : Bool := false

namespace Printing

/-- Takes an argument, if one is left. -/
def take (p : Printing) : Option String × Printing :=
  match p.args with
  | [] => (none, p)
  | a :: args => (some a, { p with args })

/-- Prints a text. -/
def print (p : Printing) (s : String) : Printing :=
  { p with said := .text s :: p.said }

/-- Complains. -/
def warn (p : Printing) (s : String) : Printing :=
  { p with said := .complaint s :: p.said }

/-- Complains of a failure. -/
def complain (p : Printing) (s : String) : Printing :=
  { p.warn s with status := 1 }

/-- Complains and ends. -/
def stop (p : Printing) (s : String) : Printing :=
  { p.complain s with isOver := true }

/-- Ends without a failure. -/
def finishHere (p : Printing) : Printing :=
  { p with isOver := true, status := 0 }

/-- Complains of what a number was read from: if it is out of range, or if something is left. -/
def check (p : Printing) (text : String) (rest : List Char) (isTooLarge : Bool) : Printing :=
  if isTooLarge then p.complain (cited text ++ ": Numerical result out of range")
  else if rest = [] then p
  else if rest.length = text.length then p.complain (cited text ++ ": expected a numeric value")
  else p.complain (cited text ++ ": value not completely converted")

/-- The whole number at the start of a text, and what follows it; `none` if there is none. -/
def wholeStart? (text : String) : Option (Int × List Char) :=
  let cs := text.toList.dropWhile fun c => c = ' ' || (9 ≤ c.toNat && c.toNat ≤ 13)
  let (isNegative, cs) := match cs with
    | '-' :: cs => (true, cs)
    | '+' :: cs => (false, cs)
    | cs => (false, cs)
  let read (base : Nat) (cs : List Char) : Option (Int × List Char) :=
    let ds := cs.takeWhile fun c => (digitOf? base c).isSome
    if ds = [] then none
    else
      let n : Nat := ds.foldl (fun n c => n * base + (digitOf? base c).getD 0) 0
      some (if isNegative then -(n : Int) else n, cs.drop ds.length)
  match cs with
  | '0' :: x :: d :: rest =>
    if x.toLower = 'x' && (digitOf? 16 d).isSome then read 16 (d :: rest) else read 8 cs
  | '0' :: _ => read 8 cs
  | _ => read 10 cs

/-- The character of an argument that starts with a quote. -/
def quotedOctet? (text : String) : Option (Char × List Char) :=
  match text.toList with
  | '"' :: c :: rest | '\'' :: c :: rest => some (c, rest)
  | _ => none

/-- Warns of what follows a character that stands for a number. -/
def warnRest (p : Printing) (rest : List Char) : Printing :=
  if rest = [] then p
  else p.warn ("warning: " ++ String.ofList rest ++
    ": character(s) following character constant have been ignored")

/-- Takes a whole number between bounds. -/
def takeInteger (least most : Int) (p : Printing) : Int × Printing :=
  match p.take with
  | (none, p) => (0, p)
  | (some text, p) =>
    match quotedOctet? text, wholeStart? text with
    | some (c, rest), _ => ((c.toNat : Int), p.warnRest rest)
    | none, none => (0, p.check text text.toList false)
    | none, some (n, rest) =>
      (max least (min most n), p.check text rest (n < least || most < n))

/-- Takes a whole number with a sign. -/
def takeSigned : Printing → Int × Printing :=
  takeInteger (-9223372036854775808) 9223372036854775807

/-- Takes a whole number of a machine word: those below zero count down from the largest one. -/
def takeWord (p : Printing) : Nat × Printing :=
  let (n, p) := takeInteger (-18446744073709551615) 18446744073709551615 p
  ((n % 18446744073709551616).toNat, p)

/-- Takes a number with a point. -/
def takeReal (p : Printing) : RealNumber × Printing :=
  match p.take with
  | (none, p) => (.zero, p)
  | (some text, p) =>
    match quotedOctet? text, RealNumber.read? 64 text.toList with
    | some (c, rest), _ => (.ofNat c.toNat, p.warnRest rest)
    | none, none => (.zero, p.check text text.toList false)
    | none, some (r, rest) => (r, p.check text rest false)

/-- The number of a directive, which an argument may give. -/
def takeAmount (what : String) (p : Printing) : Amount → Option Int × Printing
  | .none => (none, p)
  | .given n => (some n, p)
  | .argument =>
    let text := p.args.headD "0"
    let (n, p) := p.takeSigned
    if n < -2147483648 || 2147483647 < n then (none, p.stop ("invalid " ++ what ++ ": " ++ cited text))
    else (some n, p)

/-- A text quoted as a shell reads it. -/
def reusable (text : String) : String :=
  if text = "" then "''" else shown text

/-- The letters of directives that cannot come after a flag. -/
def lettersWithout : Char → String
  | '\'' => "aAeEcosxX"
  | '#' => "dcisu"
  | '0' => "cs"
  | _ => ""

/-- Prints what a directive says. -/
def directive (p : Printing) (layout : Layout) (letter : Char) : Printing :=
  match letter with
  | 'c' =>
    let (arg, p) := p.take
    p.print (layout.pad (String.singleton ((arg.getD "").toList.headD '\x00')))
  | 's' =>
    let (arg, p) := p.take
    p.print (layout.string (arg.getD ""))
  | 'd' | 'i' =>
    let (n, p) := p.takeSigned
    p.print (layout.integer n)
  | 'o' | 'u' | 'x' | 'X' =>
    let (n, p) := p.takeWord
    p.print (layout.word letter n)
  | _ =>
    let (r, p) := p.takeReal
    p.print (layout.real letter r)

/-- Prints what a directive after a percent sign says; gives what follows it. -/
def printDirective (p : Printing) (rest : List Char) : List Char × Printing :=
  let (flags, width, places, after) := Directive.readStart ("'".toList ++ Directive.flagLetters) rest
  let (width?, p) := p.takeAmount "field width" width
  let (places?, p) := if p.isOver then (none, p) else p.takeAmount "precision" places
  let after := after.dropWhile fun c => "hlLjzt".toList.contains c
  let source := '%' :: rest.take (rest.length - after.length + 1)
  let refused := flags.flatMap (fun c => (lettersWithout c).toList) ++
    (match places with
      | .none => []
      | _ => ['c'])
  match after with
  | letter :: after =>
    if p.isOver then ([], p)
    else if "aAcdeEfFgGiosuxX".toList.contains letter && !refused.contains letter then
      let w := width?.getD 0
      let layout : Layout := {
        flags := if w < 0 then '-' :: flags else flags
        width := w.natAbs
        places := places?.bind fun n => if n < 0 then none else some n.toNat }
      (after, p.directive layout letter)
    else ([], p.stop (String.ofList source ++ ": invalid conversion specification"))
  | [] =>
    ([], if p.isOver then p else p.stop (String.ofList source ++ ": invalid conversion specification"))

/-- The text of a character that is given by its number: its digits, if it is not in the basic set. -/
def numberedChar (n : Nat) : String :=
  if n < 128 then String.singleton (Char.ofNat n)
  else
    let digits := String.ofList ((Nat.toDigits 16 n).map Char.toUpper)
    let width := if n < 65536 then 4 else 8
    (if n < 65536 then "\\u" else "\\U") ++ RealNumber.padZeros width digits

/-- Prints the character whose number comes after a backslash and a letter. -/
def printNumbered (p : Printing) (letter : Char) (cs : List Char) : List Char × Printing :=
  let size := if letter = 'u' then 4 else 8
  let ds := cs.take size
  if ds.length < size || !ds.all (fun d => (digitOf? 16 d).isSome) then
    ([], p.stop "missing hexadecimal number in escape")
  else
    let n := ds.foldl (fun n d => n * 16 + (digitOf? 16 d).getD 0) 0
    if 0xd800 ≤ n && n ≤ 0xdfff then
      ([], p.stop ("invalid universal character name \\" ++ String.singleton letter ++
        String.ofList (ds.map Char.toLower)))
    else (cs.drop size, p.print (numberedChar n))

/-- Prints what a backslash stands for before some characters; gives what follows them. Octal digits
come after a zero if `afterZero`. -/
def printEscape (p : Printing) (afterZero : Bool) (cs : List Char) : List Char × Printing :=
  match cs with
  | [] => ([], p.print "\\")
  | 'x' :: rest =>
    if (rest.head?.bind (digitOf? 16)).isNone then ([], p.stop "missing hexadecimal number in escape")
    else
      let (c, rest) := digitsOctet 16 2 rest
      (rest, p.print (String.singleton c))
  | 'c' :: _ => ([], p.finishHere)
  | '"' :: rest => (rest, p.print "\"")
  | c :: rest =>
    if (digitOf? 8 c).isSome then
      let (c, rest) := digitsOctet 8 3 (if afterZero && c = '0' then rest else cs)
      (rest, p.print (String.singleton c))
    else if c = 'u' || c = 'U' then p.printNumbered c rest
    else match escapeLetter? c with
      | some d => (rest, p.print (String.singleton d))
      | none => (rest, p.print (String.ofList ['\\', c]))

/-- Prints a text with its backslashes replaced. -/
def printEscaped : Nat → List Char → Printing → Printing
  | 0, _, p => p
  | _ + 1, [], p => p
  | steps + 1, '\\' :: cs, p =>
    let (rest, p) := p.printEscape true cs
    if p.isOver then p else printEscaped steps rest p
  | steps + 1, c :: cs, p =>
    let plain := (c :: cs).takeWhile (· ≠ '\\')
    printEscaped steps ((c :: cs).drop plain.length) (p.print (String.ofList plain))

/-- Prints a format once. -/
def once : Nat → List Char → Printing → Printing
  | 0, _, p => p
  | steps + 1, cs, p =>
    if p.isOver then p
    else match cs with
    | [] => p
    | '\\' :: rest =>
      let (rest, p) := p.printEscape false rest
      once steps rest p
    | '%' :: '%' :: rest => once steps rest (p.print "%")
    | '%' :: 'b' :: rest =>
      let (arg, p) := p.take
      let cs := (arg.getD "").toList
      once steps rest (printEscaped (cs.length + 1) cs p)
    | '%' :: 'q' :: rest =>
      let (arg, p) := p.take
      once steps rest (p.print (reusable (arg.getD "")))
    | '%' :: rest =>
      let (rest, p) := p.printDirective rest
      once steps rest p
    | c :: rest =>
      let plain := (c :: rest).takeWhile fun c => c ≠ '\\' && c ≠ '%'
      once steps ((c :: rest).drop plain.length) (p.print (String.ofList plain))

/-- Prints a format as often as there are arguments for it. -/
def all (format : List Char) : Nat → Printing → Printing
  | 0, p => p
  | steps + 1, p =>
    let before := p.args.length
    let p := once (format.length + 1) format p
    if p.isOver ∨ p.args = [] then p
    else if p.args.length = before then
      p.warn ("warning: ignoring excess arguments, starting with " ++ cited (p.args.headD ""))
    else all format steps p

/-- Says what is to be said, in order: texts between complaints at once. -/
def say (c : Call) : List Utterance → String → Action (Option FileError)
  | [], text => if text = "" then return none else write 1 text
  | .text s :: rest, text => say c rest (text ++ s)
  | .complaint s :: rest, text => do
    let failure ← if text = "" then pure none else write 1 text
    c.complain s
    let later ← say c rest ""
    return failure.or later

end Printing

/-- Prints arguments as a format says. -/
def printf : Program := fun c => do
  let args := if c.args.head? = some "--" then c.args.drop 1 else c.args
  match args with
  | [] => c.misused 1 "missing operand"
  | format :: args =>
    let p := Printing.all format.toList (args.length + 1) { args }
    match ← Printing.say c p.said.reverse "" with
    | none => return p.status
    | some e => c.fail 1 ("write error: " ++ e.reason)

end LuaBundler.Utility
