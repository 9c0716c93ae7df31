import LuaBundler.Shell.Syntax
import LuaBundler.Text.Digits

/-!
# Arithmetic

Expressions over whole numbers of 64 bits, which wrap around. An expression is evaluated while it is
read: operators bind by their level, and what a condition leaves out is read without effect.

A variable has the number that its text spells, and none counts as zero. Assignments are collected
in their order; a later use of the variable sees them.
-/

namespace LuaBundler.Shell

open LuaBundler.Text

/-! ### Numbers -/

/-- The least number. -/
def minNumber : Int := -9223372036854775808

/-- The greatest number. -/
def maxNumber : Int := 9223372036854775807

/-- A number brought into range by wrapping around. -/
def wrap (n : Int) : Int :=
  (n + 9223372036854775808) % 18446744073709551616 - 9223372036854775808

/-- A number brought into range by its nearest number. -/
def clamp (n : Int) : Int :=
  max minNumber (min maxNumber n)

/-- The value of a digit, in any base up to sixteen. -/
def digitValue (c : Char) : Nat :=
  if c.isDigit then c.toNat - 48
  else if 'a' ≤ c ∧ c ≤ 'f' then c.toNat - 87
  else if 'A' ≤ c ∧ c ≤ 'F' then c.toNat - 55
  else 16

/-- The number that digits spell, and what follows them. -/
def digits (base : Nat) (cs : List Char) : Nat × List Char :=
  let ds := cs.takeWhile fun c => digitValue c < base
  (ds.foldl (fun n c => n * base + digitValue c) 0, cs.drop ds.length)

/-- The number at the start of a text, whose base its start tells, and what follows it. -/
def unsigned (cs : List Char) : Nat × List Char :=
  match cs with
  | '0' :: x :: d :: _ =>
    if (x = 'x' ∨ x = 'X') ∧ digitValue d < 16 then digits 16 (cs.drop 2) else digits 8 cs
  | '0' :: _ => digits 8 cs
  | _ => digits 10 cs

/-- Space in a number. -/
def isSpace (c : Char) : Bool :=
  c = ' ' || (9 ≤ c.toNat && c.toNat ≤ 13)

/-- The number that a whole text spells, if it is in range; space around it is left out, and
nothing is zero. -/
def number? (text : String) : Option Int :=
  let cs := text.toList.dropWhile isSpace
  let (isNegative, cs) := match cs with
    | '-' :: cs => (true, cs)
    | '+' :: cs => (false, cs)
    | cs => (false, cs)
  let (n, rest) := unsigned cs
  let value : Int := if isNegative then -n else n
  if !rest.all isSpace ∨ value < minNumber ∨ maxNumber < value then none
  else if text.toList.all isSpace ∨ (cs.head?.elim false Char.isDigit) then some value
  else none

/-- A number as it is written. -/
def numberText (n : Int) : String :=
  if n < 0 then "-" ++ decimal n.natAbs else decimal n.natAbs

namespace Arithmetic

/-! ### Tokens -/

/-- A token of an expression. -/
inductive Token where
  | number (n : Int)
  | name (text : String)
  | operator (text : String)
  | bad
  | stop
  deriving DecidableEq

/-- The operators, longer ones before their starts. -/
def operators : List String := ["<<=", ">>=", "==", "!=", "<=", ">=", "<<", ">>", "&&", "||", "+=",
  "-=", "*=", "/=", "%=", "&=", "|=", "^=", "=", "<", ">", "&", "|", "!", "+", "-", "*", "/", "%",
  "^", "~", "(", ")", "?", ":"]

/-- The token at the start of a text, and what follows it. -/
def token (cs : List Char) : Token × List Char :=
  let cs := cs.dropWhile fun c => c = ' ' || c = '\t' || c = '\n'
  match cs with
  | [] => (.stop, [])
  | c :: _ =>
    if c.isDigit then
      let (n, rest) := unsigned cs
      (.number (clamp n), rest)
    else if startsName c then
      let name := cs.takeWhile continuesName
      (.name (String.ofList name), cs.drop name.length)
    else match operators.find? fun o => o.toList.isPrefixOf cs with
      | some o => (.operator o, cs.drop o.length)
      | none => (.bad, cs)

/-- The binary operators by level, those that bind closest first. -/
def levels : List (List String) := [["*", "/", "%"], ["+", "-"], ["<<", ">>"],
  ["<", "<=", ">", ">="], ["==", "!="], ["&"], ["^"], ["|"]]

/-- The level of a binary operator. -/
def level? : Token → Option Nat
  | .operator o => levels.findIdx? (·.contains o)
  | _ => none

/-- The operators that assign. -/
def assigning : List String := ["=", "+=", "-=", "*=", "/=", "%=", "<<=", ">>=", "&=", "|=", "^="]

/-! ### Evaluation -/

/-- Why an expression has no value. -/
inductive Failure where
  /-- The expression makes no sense. -/
  | reason (text : String)
  /-- The text of a variable is no number. -/
  | notNumber (text : String)
  /-- A quotient is out of range, which ends the process. -/
  | trap
  /-- There are too many levels. -/
  | tooDeep

/-- An expression that is being read: its next token, what follows it, and the variables. -/
structure State where
  next : Token
  rest : List Char
  get? : String → Option String
  assigned : List (String × Int) := []

/-- Evaluation. -/
abbrev Eval := EStateM Failure State

/-- Goes on to the next token. -/
def advance : Eval Unit :=
  modify fun s =>
    let (next, rest) := token s.rest
    { s with next, rest }

/-- The next token, which is left behind. -/
def take : Eval Token := do
  let t := (← get).next
  advance
  return t

/-- The number of a variable. -/
def lookUp (name : String) : Eval Int := do
  let s ← get
  match s.assigned.lookup name with
  | some n => return n
  | none =>
    let text := (s.get? name).getD ""
    match number? text with
    | some n => return n
    | none => throw (.notNumber text)

/-- The value of a comparison. -/
def truth (b : Bool) : Int := if b then 1 else 0

/-- The bits of a number. -/
def bits (n : Int) : BitVec 64 := BitVec.ofInt 64 n

/-- The value of a binary operator. -/
def binary (o : String) (a b : Int) : Eval Int := do
  let shift := (b % 64).toNat
  let quotient (f : Int → Int → Int) : Eval Int :=
    if b = 0 then throw (.reason "division by zero")
    else if a = minNumber ∧ b = -1 then throw .trap
    else pure (f a b)
  match o with
  | "*" => return wrap (a * b)
  | "/" => quotient Int.tdiv
  | "%" => quotient Int.tmod
  | "+" => return wrap (a + b)
  | "-" => return wrap (a - b)
  | "<<" => return (bits a <<< shift).toInt
  | ">>" => return (bits a).toInt >>> shift
  | "<" => return truth (a < b)
  | "<=" => return truth (a ≤ b)
  | ">" => return truth (b < a)
  | ">=" => return truth (b ≤ a)
  | "==" => return truth (a = b)
  | "!=" => return truth (a ≠ b)
  | "&" => return (bits a &&& bits b).toInt
  | "^" => return (bits a ^^^ bits b).toInt
  | _ => return (bits a ||| bits b).toInt

/-- What stands between operators; `whole` reads what stands between parentheses. -/
def primary (whole : Bool → Eval Int) (isIdle : Bool) : Nat → Eval Int
  | 0 => throw .tooDeep
  | steps + 1 => do
    match ← take with
    | .number n => return n
    | .name x => if isIdle then return 0 else lookUp x
    | .operator "(" => do
      let n ← whole isIdle
      if (← get).next ≠ .operator ")" then throw (.reason "expecting ')'")
      advance
      return n
    | .operator "+" => primary whole isIdle steps
    | .operator "-" => return wrap (-(← primary whole isIdle steps))
    | .operator "!" => return truth ((← primary whole isIdle steps) = 0)
    | .operator "~" => return (-1) - (← primary whole isIdle steps)
    | _ => throw (.reason "expecting primary")

/-- What follows a value: binary operators of levels below a bound. -/
def operations (operand : Bool → Eval Int) (isIdle : Bool) : Nat → Nat → Int → Eval Int
  | 0, _, _ => throw .tooDeep
  | steps + 1, bound, a => do
    let s ← get
    match s.next, level? s.next with
    | .operator o, some level =>
      if level < bound then
        advance
        let b ← operand isIdle
        let b ← operations operand isIdle steps level b
        let a ← if isIdle then pure b else binary o a b
        operations operand isIdle steps bound a
      else return a
    | _, _ => return a

/-- Values joined by `&&`. -/
def conjunction (value : Bool → Eval Int) : Nat → Bool → Eval Int
  | 0, _ => throw .tooDeep
  | steps + 1, isIdle => do
    let a ← value isIdle
    if (← get).next = .operator "&&" then
      advance
      let b ← conjunction value steps (isIdle || a = 0)
      return truth (a ≠ 0 ∧ b ≠ 0)
    else return a

/-- Values joined by `||`. -/
def disjunction (value : Bool → Eval Int) : Nat → Bool → Eval Int
  | 0, _ => throw .tooDeep
  | steps + 1, isIdle => do
    let a ← value isIdle
    if (← get).next = .operator "||" then
      advance
      let b ← disjunction value steps (isIdle || a ≠ 0)
      return truth (a ≠ 0 ∨ b ≠ 0)
    else return a

/-- A choice between two values. -/
def conditional (whole value : Bool → Eval Int) : Nat → Bool → Eval Int
  | 0, _ => throw .tooDeep
  | steps + 1, isIdle => do
    let a ← value isIdle
    if (← get).next = .operator "?" then
      advance
      let b ← whole (isIdle || a = 0)
      if (← get).next ≠ .operator ":" then throw (.reason "expecting ':'")
      advance
      let c ← conditional whole value steps (isIdle || a ≠ 0)
      return if a ≠ 0 then b else c
    else return a

/-- An expression, with so many levels. -/
def expression : Nat → Bool → Eval Int
  | 0, _ => throw .tooDeep
  | depth + 1, isIdle => do
    let s ← get
    let (second, rest) := token s.rest
    match s.next, second with
    | .name x, .operator o =>
      if assigning.contains o then
        set { s with next := second, rest }
        advance
        let n ← expression depth isIdle
        if isIdle then return n
        else
          let n ← if o = "=" then pure n
            else binary (String.ofList (o.toList.dropLast)) (← lookUp x) n
          modify fun s => { s with assigned := (x, n) :: s.assigned }
          return n
      else value depth isIdle
    | _, _ => value depth isIdle
where
  /-- An expression that does not start with an assignment. -/
  value (depth : Nat) (isIdle : Bool) : Eval Int :=
    let whole := expression depth
    let operand := fun isIdle => primary whole isIdle depth
    let operated := fun isIdle => do
      operations operand isIdle depth levels.length (← operand isIdle)
    conditional whole (disjunction (conjunction operated depth) depth) depth isIdle

/-- The value of an expression, and the assignments in it, in their order. -/
def evaluate (get? : String → Option String) (text : List Char) :
    List (String × Int) × Except Failure Int :=
  let (next, rest) := token text
  let start : State := { next, rest, get? }
  match (expression (2 * text.length + 16) false).run start with
  | .error e s => (s.assigned.reverse, .error e)
  | .ok n s =>
    (s.assigned.reverse, if s.next = .stop then .ok n else .error (.reason "expecting EOF"))

end Arithmetic

end LuaBundler.Shell
