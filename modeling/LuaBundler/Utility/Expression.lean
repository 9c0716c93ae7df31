import LuaBundler.Utility.Basic
import LuaBundler.Utility.Regex.Reader

/-!
# Utilities: expressions

Evaluating an expression whose operators and operands are words of their own. A value is a text, and
a number too if it looks like one. From the loosest on the operators are: `|`, `&`, comparisons,
sums, products, matching, and functions.

A part of an expression whose value does not matter is read without being evaluated.
-/

namespace LuaBundler.Utility

open LuaBundler.Files LuaBundler.System LuaBundler.Text

namespace Expression

/-- Reading an expression: the words that are left are kept with the last one that was read. -/
abbrev Reading := ExceptT String (StateM (List String × String))

/-- Whether a text is like a number. -/
def isNumeral (text : String) : Bool :=
  match text.toList with
  | '-' :: cs => !cs.isEmpty && cs.all Char.isDigit
  | cs => !cs.isEmpty && cs.all Char.isDigit

/-- Whether a value is empty or zero. -/
def isNull (value : String) : Bool :=
  value = "" || (match value.toList with
    | '-' :: cs => !cs.isEmpty && cs.all (· = '0')
    | cs => cs.all (· = '0'))

/-- A truth value. -/
def ofBool (b : Bool) : String :=
  if b then "1" else "0"

/-- Reads a word if it is a certain one. -/
def accept (word : String) : Reading Bool := do
  match ← get with
  | (next :: rest, _) =>
    if next = word then
      set (rest, next)
      return true
    else return false
  | _ => return false

/-- Fails unless there is a word left. -/
def needMore : Reading Unit := do
  match ← get with
  | ([], last) => throw ("syntax error: missing argument after " ++ cited last)
  | _ => pure ()

/-- Reads a word. -/
def readWord : Reading String := do
  needMore
  match ← get with
  | (word :: rest, _) =>
    set (rest, word)
    return word
  | _ => return ""

/-- Reads the first of several words that comes next. -/
def acceptOne : List String → Reading (Option String)
  | [] => return none
  | word :: words => do
    if ← accept word then return some word else acceptOne words

/-! ### Operations -/

/-- The number that a value is. -/
def numberOf (value : String) : Reading Int :=
  match isNumeral value, integer? value with
  | true, some n => return n
  | _, _ => throw "non-integer argument"

/-- A sum, product or the like. -/
def calculate (operator a b : String) : Reading String := do
  let x ← numberOf a
  let y ← numberOf b
  match operator with
  | "+" => return integerText (x + y)
  | "-" => return integerText (x - y)
  | "*" => return integerText (x * y)
  | _ =>
    if y = 0 then throw "division by zero"
    return integerText (if operator = "/" then x.tdiv y else x.tmod y)

/-- A comparison, of numbers if both values are such. -/
def compare (operator a b : String) : String :=
  let (isLess, isEqual) := match isNumeral a && isNumeral b, integer? a, integer? b with
    | true, some x, some y => (decide (x < y), decide (x = y))
    | _, _, _ => (decide (a < b), decide (a = b))
  ofBool (match operator with
    | "<" => isLess
    | "<=" => isLess || isEqual
    | "=" | "==" => isEqual
    | "!=" => !isEqual
    | ">=" => !isLess
    | _ => !isLess && !isEqual)

/-- What the start of a text matches: its first group, or how long the match is. -/
def matching (text pattern : String) : Reading String :=
  match Regex.read { isExtended := false, isTolerant := false } pattern with
  | .error e => throw e.message
  | .ok p =>
    let bytes := arrayOfOctets text
    match p.compiled.matchAt? bytes 0 with
    | none => return if p.groups = 0 then "0" else ""
    | some m =>
      if p.groups = 0 then
        return match m.getD 0 none with
          | some (a, b) => decimal (b - a)
          | none => "0"
      else
        return match m.getD 1 none with
          | some (a, b) => octetsOfArray (bytes.extract a b)
          | none => ""

/-- The position of the first character of a text that is one of several; zero if there is none. -/
def position (text among : String) : String :=
  match text.toList.findIdx? among.toList.contains with
  | some i => decimal (i + 1)
  | none => "0"

/-- A part of a text from a position on, counted from one. -/
def part (text start count : String) : String :=
  match isNumeral start && isNumeral count, integer? start, integer? count with
  | true, some start, some count =>
    if start ≤ 0 ∨ count ≤ 0 then ""
    else String.ofList ((text.toList.drop (start.toNat - 1)).take count.toNat)
  | _, _, _ => ""

/-! ### Reading -/

/-- The levels of operators between two operands, from the tightest on. -/
def levels : List (List String) :=
  [[":"], ["*", "/", "%"], ["+", "-"], ["<=", "<", "==", "=", "!=", ">=", ">"], ["&"], ["|"]]

/-- The value of an operator on values. -/
def apply (operator a b : String) : Reading String :=
  if operator = ":" then matching a b
  else if ["+", "-", "*", "/", "%"].contains operator then calculate operator a b
  else return compare operator a b

/-- Reads what follows an operand: operators with their second operands, which are read by a rule
that is told whether the value matters. -/
def readRest (operators : List String) (operand : Bool → Reading String) (isNeeded : Bool) :
    Nat → String → Reading String
  | 0, a => return a
  | count + 1, a => do
    let goOn := readRest operators operand isNeeded count
    match ← acceptOne operators with
    | none => return a
    | some "|" =>
      let b ← operand (isNeeded && isNull a)
      goOn (if !isNull a then a else if isNull b then "0" else b)
    | some "&" =>
      let b ← operand (isNeeded && !isNull a)
      goOn (if isNull a || isNull b then "0" else a)
    | some operator =>
      let b ← operand isNeeded
      goOn (← if isNeeded then apply operator a b else pure a)

/-- Reads a part of an expression of a level; below the lowest one there are operands and
functions. -/
def readLevel : Nat → Nat → Bool → Reading String
  | 0, _, _ => return ""
  | steps + 1, 0, isNeeded => do
    let operand := readLevel steps 0 isNeeded
    let function? ← acceptOne ["+", "length", "match", "index", "substr"]
    match function? with
    | some "+" => readWord
    | some "length" => return decimal (← operand).length
    | some "match" =>
      let a ← operand
      let b ← operand
      if isNeeded then matching a b else return a
    | some "index" =>
      let a ← operand
      let b ← operand
      return position a b
    | some _ =>
      let a ← operand
      let b ← operand
      let c ← operand
      return part a b c
    | none =>
      needMore
      if ← accept "(" then
        let value ← readLevel steps levels.length isNeeded
        match ← get with
        | ([], last) => throw ("syntax error: expecting ')' after " ++ cited last)
        | (word :: _, _) =>
          if ← accept ")" then return value
          else throw ("syntax error: expecting ')' instead of " ++ cited word)
      else if ← accept ")" then throw "syntax error: unexpected ')'"
      else readWord
  | steps + 1, level + 1, isNeeded => do
    let first ← readLevel steps level isNeeded
    readRest (levels.getD level []) (readLevel steps level) isNeeded steps first

/-- The value of an expression, or what is wrong with it. -/
def value (words : List String) : Except String String :=
  let read : Reading String := do
    let value ← readLevel (16 * words.length + 32) levels.length true
    match ← get with
    | (word :: _, _) => throw ("syntax error: unexpected argument " ++ cited word)
    | _ => return value
  (read.run.run (words, "")).1

end Expression

/-- Evaluates an expression. -/
def expr : Program := fun c => do
  let words := if c.args.head? = some "--" then c.args.drop 1 else c.args
  if words.isEmpty then c.misused 2 "missing operand"
  else match Expression.value words with
  | .error reason => c.fail 2 reason
  | .ok value => c.finish (value ++ "\n") (if Expression.isNull value then 1 else 0) 3

end LuaBundler.Utility
