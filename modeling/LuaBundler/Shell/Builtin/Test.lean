import LuaBundler.Shell.Arithmetic
import LuaBundler.Shell.Builtin.Basic

/-!
# Builtins: tests

Conditions on texts, numbers and files, joined by `-a`, `-o` and `!`. What a word means depends on
what follows it: an operator that has no operand is a text.
-/

namespace LuaBundler.Shell.Builtin

open LuaBundler.System

/-- What kind of operator a word is. -/
inductive TestKind where
  | unary
  | binary
  | not
  | and
  | or
  | openParen
  | closeParen
  deriving DecidableEq

/-- The operators on one operand. -/
def unaryTests : List String := ["-r", "-w", "-x", "-e", "-f", "-d", "-c", "-b", "-p", "-u", "-g",
  "-k", "-s", "-t", "-z", "-n", "-h", "-O", "-G", "-L", "-S"]

/-- The operators on two operands. -/
def binaryTests : List String := ["=", "!=", "<", ">", "-eq", "-ne", "-ge", "-gt", "-le", "-lt",
  "-nt", "-ot", "-ef"]

/-- What kind of operator a word is, if it is one. -/
def testKind? (word : String) : Option TestKind :=
  if unaryTests.contains word then some .unary
  else if binaryTests.contains word then some .binary
  else match word with
    | "!" => some .not
    | "-a" => some .and
    | "-o" => some .or
    | "(" => some .openParen
    | ")" => some .closeParen
    | _ => none

/-- A condition that is read: its words, and the position that has been reached. -/
structure Condition where
  words : Array String
  at_ : Nat := 0

namespace Condition

/-- The word at a distance from the position. -/
def word? (c : Condition) (distance : Nat) : Option String :=
  c.words[c.at_ + distance]?

/-- The condition at another position. -/
def move (c : Condition) (distance : Nat) : Condition :=
  { c with at_ := c.at_ + distance }

/-- Whether a word that looks like an operator on one operand is an operand itself. -/
def isOperand (c : Condition) (distance : Nat) : Bool :=
  match c.word? (distance + 1), c.word? (distance + 2) with
  | none, _ => true
  | some _, none => false
  | some w, some _ => testKind? w = some .binary

/-- What kind of operator stands at a distance from the position, if one does. -/
def kindAt? (c : Condition) (distance : Nat) : Option TestKind :=
  match (c.word? distance).bind testKind? with
  | some .unary => if c.isOperand distance then none else some .unary
  | some .openParen => if (c.word? (distance + 1)).isNone then none else some .openParen
  | k => k

end Condition

/-- Fails because a condition makes no sense. -/
def failTest {α : Type} (word message : String) : Sh α :=
  Sh.fail (if word = "" then message else word ++ ": " ++ message)

/-- What is known of a file, if it is there. -/
def factsOf? (path : String) (follow : Bool) : Sh (Option Facts) := do
  match ← Sh.ask (.facts path follow) with
  | .ok facts => return some facts
  | .error _ => return none

/-- The value of an operator on one operand. -/
def unaryTest (operator operand : String) : Sh Bool := do
  match operator with
  | "-z" => return operand = ""
  | "-n" => return operand ≠ ""
  | "-t" => do
    discard (wholeNumber operand)
    return false
  | "-h" | "-L" => return (← factsOf? operand false).elim false (·.kind = .link)
  | _ =>
    match ← factsOf? operand true with
    | none => return false
    | some facts =>
      return match operator with
        | "-f" => facts.kind = .file
        | "-d" => facts.kind = .dir
        | "-c" => facts.kind = .device
        | "-p" => facts.kind = .pipe
        | "-b" | "-S" => false
        | "-x" => facts.mode &&& 0o111 ≠ 0
        | "-u" => facts.mode &&& 0o4000 ≠ 0
        | "-g" => facts.mode &&& 0o2000 ≠ 0
        | "-k" => facts.mode &&& 0o1000 ≠ 0
        | "-s" => 0 < facts.size
        | _ => true

/-- The value of an operator on two operands. -/
def binaryTest (a operator b : String) : Sh Bool := do
  let numbers (f : Int → Int → Bool) : Sh Bool := do
    let x ← wholeNumber a
    let y ← wholeNumber b
    return f x y
  match operator with
  | "=" => return a = b
  | "!=" => return a ≠ b
  | "<" => return a < b
  | ">" => return b < a
  | "-eq" => numbers fun x y => x = y
  | "-ne" => numbers fun x y => x ≠ y
  | "-ge" => numbers fun x y => y ≤ x
  | "-gt" => numbers fun x y => y < x
  | "-le" => numbers fun x y => x ≤ y
  | "-lt" => numbers fun x y => x < y
  | _ =>
    match ← factsOf? a true, ← factsOf? b true with
    | some f, some g =>
      return match operator with
        | "-nt" => g.modified < f.modified
        | "-ot" => f.modified < g.modified
        | _ => f.number = g.number
    | _, _ => return false

/-- The parts of conditions that hold other parts. -/
inductive TestPart where
  | either
  | both
  | negated
  | single

/-- Reads a part of a condition whose first word is an operator of a kind, and gives its value. -/
def readTest : Nat → TestPart → Option TestKind → Condition → Sh (Bool × Condition)
  | 0, _, _, c => return (false, c)
  | steps + 1, .either, k, c => do
    let (a, c) ← readTest steps .both k c
    if c.kindAt? 1 = some .or then
      let c := c.move 2
      let (b, c) ← readTest steps .either (c.kindAt? 0) c
      return (a || b, c)
    else return (a, c)
  | steps + 1, .both, k, c => do
    let (a, c) ← readTest steps .negated k c
    if c.kindAt? 1 = some .and then
      let c := c.move 2
      let (b, c) ← readTest steps .both (c.kindAt? 0) c
      return (a && b, c)
    else return (a, c)
  | steps + 1, .negated, k, c => do
    if k = some .not then
      if (c.word? 1).isNone then return (true, c)
      else
        let (a, c) ← readTest steps .negated (c.kindAt? 1) (c.move 1)
        return (!a, c)
    else readTest steps .single k c
  | steps + 1, .single, k, c => do
    match c.word? 0 with
    | none => return (false, c)
    | some w =>
      if k = some .openParen then
        let c := c.move 1
        if c.kindAt? 0 = some .closeParen then return (false, c)
        else
          let (a, c) ← readTest steps .either (c.kindAt? 0) c
          if c.kindAt? 1 = some .closeParen then return (a, c.move 1)
          else failTest "" "closing paren expected"
      else if k = some .unary then
        match c.word? 1 with
        | none => failTest w "argument expected"
        | some operand => return (← unaryTest w operand, c.move 1)
      else
        match c.word? 1 with
        | none => return (w ≠ "", c)
        | some operator =>
          if testKind? operator = some .binary then
            match c.word? 2 with
            | none => failTest operator "argument expected"
            | some operand => return (← binaryTest w operator operand, c.move 2)
          else return (w ≠ "", c)

/-- The value of a condition. -/
def testWords (isTrue : Bool) : Nat → List String → Sh Bool
  | 0, _ => return false
  | steps + 1, words => do
    let run (k : Option TestKind) (words : List String) : Sh Bool := do
      let c : Condition := { words := words.toArray }
      let (value, c) ← readTest (8 * words.length + 16) .either k c
      match c.word? 0 with
      | some w =>
        if (c.word? 1).isSome then failTest w "unexpected operator"
        else return (value == isTrue)
      | none => return (value == isTrue)
    let plain (words : List String) : Sh Bool :=
      run (Condition.kindAt? { words := words.toArray } 0) words
    match words with
    | [] => return !isTrue
    | [a, o, b] =>
      if testKind? o = some .binary then run none words
      else if a = "(" ∧ b = ")" then plain [o]
      else if a = "!" then testWords false steps [o, b]
      else plain words
    | [a, x, y, b] =>
      if a = "(" ∧ b = ")" then plain [x, y]
      else if a = "!" then testWords false steps [x, y, b]
      else plain words
    | words => plain words

/-- Tests a condition. -/
def test (name : String) (args : List String) : Sh Nat := do
  let words ← if name = "[" then
      if args.getLast? = some "]" then pure args.dropLast else Sh.fail "missing ]"
    else pure args
  return if ← testWords true (words.length + 2) words then 0 else 1

end LuaBundler.Shell.Builtin
