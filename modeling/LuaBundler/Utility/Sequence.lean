import LuaBundler.Utility.Format
import LuaBundler.Utility.LineSource
import LuaBundler.Utility.Options

/-!
# Utilities: sequences

Printing the numbers from one to another in steps. Whole numbers of any size are exact; others are
computed with sixty-four binary digits. A number just past the last one is printed too if its text
is that of the last one.
-/

namespace LuaBundler.Utility

open LuaBundler.Files LuaBundler.System LuaBundler.Text

namespace Sequence

/-! ### Operands -/

/-- A number as it is given: its value, how wide it is written, and how many places it has, if they
are known. -/
structure Operand where
  value : RealNumber
  width : Int := 0
  places? : Option Nat := none

/-- One, which sequences start with and go on by. -/
def one : Operand := { value := .ofNat 1, width := 1, places? := some 0 }

/-- The whole number of an exponent as it is written. -/
def exponentOf (cs : List Char) : Int :=
  let (isNegative, cs) := match cs with
    | '-' :: cs => (true, cs)
    | '+' :: cs => (false, cs)
    | cs => (false, cs)
  let n : Nat := (cs.takeWhile Char.isDigit).foldl (fun n c => n * 10 + (c.toNat - 48)) 0
  if isNegative then -(n : Int) else n

/-- The width and the places of a number in decimal digits, with or without an exponent. -/
def shapeOf (cs : List Char) : Int × Nat :=
  let isMark (c : Char) : Bool := c = 'e' || c = 'E'
  let body := cs.takeWhile fun c => !isMark c
  let whole := body.takeWhile (· ≠ '.')
  let hasPoint := whole.length < body.length
  let fraction := body.length - whole.length - 1
  let extra : Int := if !hasPoint then 0
    else if fraction = 0 then -1
    else if whole.getLast?.any Char.isDigit then 0 else 1
  if body.length = cs.length then ((cs.length : Int) + extra, fraction)
  else
    let e := exponentOf (cs.drop (body.length + 1))
    let width := (body.length : Int) + extra
    if e < 0 then
      let width := if !hasPoint || fraction = 0 then width + 1 else width
      (width - e, fraction + e.natAbs)
    else
      let places := fraction - min fraction e.toNat
      let width := if hasPoint && places = 0 && fraction ≠ 0 then width - 1 else width
      (width + (e - min (fraction : Int) e), places)

/-- Reads an operand. -/
def readOperand (text : String) : Except String Operand :=
  match RealNumber.read? 64 text.toList with
  | some (value, []) =>
    match value with
    | .undefined _ => .error ("invalid 'not-a-number' argument: " ++ cited text)
    | _ =>
      let cs := text.toList.dropWhile fun c => c = '+' || c = ' ' || (9 ≤ c.toNat && c.toNat ≤ 13)
      let isFinite := match value with
        | .finite .. => true
        | _ => false
      if isFinite && !cs.any (fun c => c = 'x' || c = 'X') then
        let (width, places) := shapeOf cs
        .ok { value, width, places? := some places }
      else
        let isWhole := !cs.contains '.' && !cs.contains 'p'
        .ok { value, places? := if isWhole then some 0 else none }
  | _ => .error ("invalid floating point argument: " ++ cited text)

/-! ### Formats -/

/-- A format of numbers: the directive, and what is printed before and after it. -/
structure NumberFormat where
  front : String := ""
  layout : Layout
  letter : Char
  back : String := ""

/-- A number as a format says. -/
def NumberFormat.apply (f : NumberFormat) (r : RealNumber) : String :=
  f.front ++ f.layout.real f.letter r ++ f.back

/-- What is before the first percent sign that is not doubled, with those that are as one, and what
follows that sign. -/
def splitFormat : List Char → List Char × Option (List Char)
  | '%' :: '%' :: cs =>
    let (front, rest) := splitFormat cs
    ('%' :: front, rest)
  | '%' :: cs => ([], some cs)
  | c :: cs =>
    let (front, rest) := splitFormat cs
    (c :: front, rest)
  | [] => ([], none)

/-- Reads a format. -/
def readFormat (text : String) : Except String NumberFormat :=
  match splitFormat text.toList with
  | (_, none) => .error ("format " ++ cited text ++ " has no % directive")
  | (front, some rest) =>
    let flags := rest.takeWhile fun c => "-+#0 '".toList.contains c
    let rest := rest.drop flags.length
    let width := rest.takeWhile Char.isDigit
    let rest := rest.drop width.length
    let (places, rest) := match rest with
      | '.' :: rest =>
        let ds := rest.takeWhile Char.isDigit
        (some ((natural? (String.ofList ds)).getD 0), rest.drop ds.length)
      | rest => (none, rest)
    match (if rest.head? = some 'L' then rest.drop 1 else rest) with
    | [] => .error ("format " ++ cited text ++ " ends in %")
    | letter :: rest =>
      if !"efgaEFGA".toList.contains letter then
        .error ("format " ++ cited text ++ " has unknown %" ++ String.singleton letter ++ " directive")
      else match splitFormat rest with
        | (_, some _) => .error ("format " ++ cited text ++ " has too many % directives")
        | (back, none) => .ok {
            front := String.ofList front
            layout := { flags, width := (natural? (String.ofList width)).getD 0, places }
            letter, back := String.ofList back }

/-- The format that the operands ask for: as many places as the first number and the step have, and,
if all are to be as wide, the width of the wider end. -/
def standardFormat (equalWidth : Bool) (first step last : Operand) : NumberFormat :=
  match first.places?, step.places?, last.places? with
  | some a, some b, some z =>
    let places := max a b
    let wide (o : Operand) (own : Nat) : Int :=
      o.width + ((places : Int) - own) + (if own = 0 && places ≠ 0 then 1 else 0)
    let ends := max (wide first a) (wide last z - (if z ≠ 0 && places = 0 then 1 else 0))
    { layout := { flags := if equalWidth then ['0'] else [], places := some places
                  width := if equalWidth then ends.toNat else 0 }, letter := 'f' }
  | _, _, _ => { layout := {}, letter := 'g' }

/-! ### Counting -/

/-- The number that is so many steps after the first one. -/
def nth (first step : RealNumber) (i : Nat) : RealNumber :=
  match first.quotient?, step.quotient? with
  | some (n, d), some (m, e) =>
    match (RealNumber.ofRatio 64 (m * i) e).quotient? with
    | some (m, e) => .ofRatio 64 (n * e + m * d) (d * e)
    | none => first
  | _, _ => first

/-- Whether a number is past the last one. -/
def isPast (step last x : RealNumber) : Bool :=
  if step.isNegative then x.less last else last.less x

/-- Whether a number past the last one looks like the last one, and unlike the one before. -/
def looksLast (f : NumberFormat) (last before x : RealNumber) : Bool :=
  let text := f.layout.real f.letter x
  match RealNumber.read? 64 text.toList with
  | some (y, []) => !(y.less last) && !(last.less y) && text ≠ f.layout.real f.letter before
  | _ => false

/-- Prints the numbers from the one with a number on. -/
def printFrom (f : NumberFormat) (separator : String) (first step last : RealNumber) :
    Nat → Nat → Gathered → Action Gathered
  | 0, _, g => return g
  | steps + 1, i, g => do
    let x := nth first step i
    let g ← g.put (f.apply x)
    let next := nth first step (i + 1)
    if g.failure?.isSome then return g
    else if !isPast step last next then
      printFrom f separator first step last steps (i + 1) (← g.put separator)
    else if looksLast f last x next then g.put (separator ++ f.apply next)
    else return g

/-- Prints whole numbers. Without a last one they have no end. -/
def printWhole (separator : String) (step : Nat) (last? : Option Nat) :
    Nat → Nat → Gathered → Action Gathered
  | 0, _, g => return g
  | steps + 1, n, g => do
    let g ← g.put (decimal n)
    if g.failure?.isSome then return g
    else if last?.any fun last => last < n + step then return g
    else printWhole separator step last? steps (n + step) (← g.put separator)

/-- A number that is whole and not below zero. -/
def whole? (o : Operand) : Option Nat :=
  if o.places? = some 0 && !o.value.isNegative then
    match o.value.quotient? with
    | some (n, d) => if n % d = 0 then some (n / d).toNat else none
    | none => none
  else none

/-! ### The utility -/

/-- Whether a word is a number below zero and no option. -/
def isNegativeNumber (arg : String) : Bool :=
  match arg.toList with
  | '-' :: c :: _ => c.isDigit || c = '.'
  | _ => false

/-- Whether the argument of an option is in the next word. -/
def takesNext (arg : String) : Bool :=
  match arg.toList with
  | '-' :: '-' :: name =>
    !name.contains '=' && name ≠ [] &&
      (name.isPrefixOf "format".toList || name.isPrefixOf "separator".toList)
  | '-' :: letters => (letters.dropWhile fun c => c ≠ 'f' && c ≠ 's').length = 1
  | _ => false

/-- The arguments with a mark before a first operand that is a number below zero. -/
def markOperands : List String → List String
  | [] => []
  | arg :: args =>
    if isNegativeNumber arg then "--" :: arg :: args
    else if arg = "--" || arg = "-" || !arg.startsWith "-" then arg :: args
    else if takesNext arg then
      match args with
      | value :: args => arg :: value :: markOperands args
      | [] => [arg]
    else arg :: markOperands args

/-- What a sequence is made of: the first number, the step and the last number. -/
def readOperands (texts : List String) : Except String (Operand × Operand × Operand) := do
  match texts with
  | [last] => return (one, one, ← readOperand last)
  | [first, last] =>
    let first ← readOperand first
    return (first, one, ← readOperand last)
  | [first, step, last] =>
    let first ← readOperand first
    let stepText := step
    let step ← readOperand step
    if step.value.quotient?.any (·.1 = 0) then
      .error ("invalid Zero increment value: " ++ cited stepText)
    return (first, step, ← readOperand last)
  | _ => .error "missing operand"

/-- Prints all numbers. -/
def print (c : Call) (format? : Option NumberFormat) (equalWidth : Bool) (separator : String)
    (texts : List String) (first step last : Operand) : Action Nat := do
  let isPlain := format?.isNone && !equalWidth && separator.length = 1
  let exact (text : String) (o : Operand) : Option Nat := (natural? text).or (whole? o)
  let firstText := if texts.length = 1 then "1" else texts.headD ""
  let isEndless := match last.value with
    | .infinite false => true
    | _ => false
  let g ← match isPlain, exact firstText first, whole? step, exact (texts.getLastD "") last with
    | true, some a, some s, some z =>
      if z < a then return 0 else printWhole separator s (some z) maxSteps a {}
    | true, some a, some s, none =>
      if isEndless then printWhole separator s none maxSteps a {} else run
    | _, _, _, _ => run
  let g ← if g.text = "" && g.failure?.isNone && isEmpty then pure g else g.put "\n"
  g.finish c 0 1
where
  /-- Whether there is no number to print. -/
  isEmpty : Bool := isPast step.value last.value first.value
  /-- Prints the numbers as they are computed. -/
  run : Action Gathered :=
    if isEmpty then return {}
    else printFrom (format?.getD (standardFormat equalWidth first step last)) separator first.value
      step.value last.value maxSteps 0 {}

end Sequence

/-- Prints a sequence of numbers. -/
def seq : Program := fun c =>
  { c with args := Sequence.markOperands c.args }.withWords [⟨"f", ["format"], .required⟩,
    ⟨"s", ["separator"], .required⟩, ⟨"w", ["equal-width"], .plain⟩] (fun w =>
    let n := w.operands.length
    if n = 0 then c.misused 1 "missing operand"
    else if 3 < n then c.misused 1 ("extra operand " ++ cited (w.operands.getD 3 ""))
    else match (w.get? "f").mapM Sequence.readFormat with
      | .error reason => c.fail 1 reason
      | .ok format? =>
        if format?.isSome && w.has "w" then
          c.misused 1 "format string may not be specified when printing equal width strings"
        else match Sequence.readOperands w.operands with
          | .error reason => c.misused 1 reason
          | .ok (first, step, last) =>
            Sequence.print c format? (w.has "w") ((w.get? "s").getD "\n") w.operands first step last) 1 true

end LuaBundler.Utility
