import LuaBundler.Utility.Basic

/-!
# Utilities: conditions

Testing a condition on texts, numbers and files. How the words of a condition are read depends on
how many there are: up to four words have one reading each, and of more words `-a` binds closer
than `-o`.
-/

namespace LuaBundler.Utility

open LuaBundler.Files LuaBundler.System LuaBundler.Text

namespace Condition

/-- Reading a condition: its words are given, the position of the next one is kept, and the reading
fails with what is wrong. -/
abbrev Testing := ExceptT String (StateT Nat Action)

/-- Asks the system. -/
def inquire (r : Request) : Testing r.Answer :=
  ExceptT.lift (StateT.lift (Action.ask r))

/-- The operators on two operands. -/
def binaryOperators : List String := ["=", "==", "!=", "-nt", "-ot", "-ef", "-eq", "-ne", "-lt",
  "-le", "-gt", "-ge"]

/-- Fails for lack of a word. -/
def beyond {α : Type} (ws : Array String) : Testing α :=
  throw ("missing argument after " ++ cited (ws.back?.getD ""))

/-- The word at a distance from the position. -/
def word? (ws : Array String) (distance : Nat) : Testing (Option String) := do
  return ws[(← get) + distance]?

/-- Goes on to the next word; there may have to be one. -/
def advance (ws : Array String) (needsMore : Bool) : Testing Unit := do
  modify (· + 1)
  if needsMore && ws.size ≤ (← get) then beyond ws

/-- The number that a word spells. -/
def numberOf (text : String) : Testing Int := do
  let isSpace (c : Char) : Bool := c = ' ' || (9 ≤ c.toNat && c.toNat ≤ 13)
  let cs := text.toList.dropWhile isSpace
  let cs := (cs.reverse.dropWhile fun c => c = ' ' || c = '\t').reverse
  match integer? (String.ofList cs) with
  | some n => return n
  | none => throw ("invalid integer " ++ cited text)

/-- What is known of a file, if it is there. -/
def lookUp (path : String) (follow : Bool) : Testing (Option Facts) := do
  match ← inquire (.facts path follow) with
  | .ok f => return some f
  | .error _ => return none

/-- The value of an operator on one operand. -/
def unaryValue (letter : Char) (operand : String) : Testing Bool := do
  match letter with
  | 'z' => return operand = ""
  | 'n' => return operand ≠ ""
  | 't' =>
    discard (numberOf operand)
    return false
  | 'h' | 'L' => return (← lookUp operand false).elim false (·.kind = .link)
  | _ =>
    match ← lookUp operand true with
    | none => return false
    | some f =>
      return match letter with
        | 'f' => f.kind = .file
        | 'd' => f.kind = .dir
        | 'c' => f.kind = .device
        | 'p' => f.kind = .pipe
        | 'b' | 'S' | 'N' => false
        | 'x' => f.kind = .dir || f.mode &&& 0o111 ≠ 0
        | 'u' => f.mode &&& 0o4000 ≠ 0
        | 'g' => f.mode &&& 0o2000 ≠ 0
        | 'k' => f.mode &&& 0o1000 ≠ 0
        | 's' => 0 < f.size
        | _ => true

/-- The value of an operator on two operands, of which the length may be meant. -/
def binaryValue (a : String) (lengthOfA : Bool) (operator : String) (b : String)
    (lengthOfB : Bool) : Testing Bool := do
  let valueOf (text : String) (isLength : Bool) : Testing Int :=
    if isLength then return (text.length : Int) else numberOf text
  let numbers (f : Int → Int → Bool) : Testing Bool := do
    let x ← valueOf a lengthOfA
    let y ← valueOf b lengthOfB
    return f x y
  let files (f : Option Facts → Option Facts → Bool) : Testing Bool := do
    if lengthOfA || lengthOfB then throw (operator ++ " does not accept -l")
    return f (← lookUp a true) (← lookUp b true)
  match operator with
  | "=" | "==" => return a = b
  | "!=" => return a ≠ b
  | "-eq" => numbers fun x y => x = y
  | "-ne" => numbers fun x y => x ≠ y
  | "-lt" => numbers fun x y => x < y
  | "-le" => numbers fun x y => x ≤ y
  | "-gt" => numbers fun x y => y < x
  | "-ge" => numbers fun x y => y ≤ x
  | "-nt" => files fun x? y? => match x?, y? with
    | some x, some y => y.modified < x.modified
    | some _, none => true
    | none, _ => false
  | "-ot" => files fun x? y? => match x?, y? with
    | some x, some y => x.modified < y.modified
    | none, some _ => true
    | _, none => false
  | _ => files fun x? y? => match x?, y? with
    | some x, some y => x.number = y.number
    | _, _ => false

/-- Reads an operator with its two operands. -/
def readBinary (ws : Array String) (lengthOfA : Bool) : Testing Bool := do
  if lengthOfA then advance ws false
  let operatorAt := (← get) + 1
  let lengthOfB := operatorAt + 2 < ws.size && ws.getD (operatorAt + 1) "" = "-l"
  if lengthOfB then advance ws false
  let a := ws.getD (operatorAt - 1) ""
  let b := ws.getD (operatorAt + (if lengthOfB then 2 else 1)) ""
  set ((← get) + 3)
  binaryValue a lengthOfA (ws.getD operatorAt "") b lengthOfB

/-- Reads an operator with its one operand. -/
def readUnary (ws : Array String) : Testing Bool := do
  let word := (← word? ws 0).getD ""
  match word.toList with
  | [_, letter] =>
    if "aerwxNOGfdsScbpLhugktnz".toList.contains letter then
      advance ws true
      let operand := (← word? ws 0).getD ""
      advance ws false
      unaryValue (if letter = 'a' then 'e' else letter) operand
    else throw (cited word ++ ": unary operator expected")
  | _ => throw (cited word ++ ": unary operator expected")

/-- Whether a word may be an operator on one operand. -/
def looksUnary (word : String) : Bool :=
  match word.toList with
  | ['-', _] => true
  | _ => false

/-- Reads one word that is true unless it is empty. -/
def readOne (ws : Array String) : Testing Bool := do
  let word := (← word? ws 0).getD ""
  advance ws false
  return word ≠ ""

/-- Reads two words. -/
def readTwo (ws : Array String) : Testing Bool := do
  let word := (← word? ws 0).getD ""
  if word = "!" then
    advance ws false
    return !(← readOne ws)
  else if looksUnary word then readUnary ws
  else beyond ws

/-- The parts of a condition. -/
inductive Part where
  /-- So many words. -/
  | words (count : Nat)
  | either
  | both
  | term

/-- Reads a part of a condition. -/
def readPart (ws : Array String) : Nat → Part → Testing Bool
  | 0, _ => return false
  | steps + 1, .words count => do
    let first := (← word? ws 0).getD ""
    match count with
    | 1 => readOne ws
    | 2 => readTwo ws
    | 3 => readThree steps
    | 4 =>
      if first = "!" then
        advance ws true
        return !(← readThree steps)
      else if first = "(" && (← word? ws 3) = some ")" then
        advance ws false
        let value ← readTwo ws
        advance ws false
        return value
      else readPart ws steps .either
    | _ => readPart ws steps .either
  | steps + 1, .either => do
    if ws.size ≤ (← get) then beyond ws
    let value ← readPart ws steps .both
    if (← word? ws 0) = some "-o" then
      advance ws false
      let other ← readPart ws steps .either
      return value || other
    else return value
  | steps + 1, .both => do
    let value ← readPart ws steps .term
    if (← word? ws 0) = some "-a" then
      advance ws false
      let other ← readPart ws steps .both
      return value && other
    else return value
  | steps + 1, .term => do
    let left := ws.size - (← get)
    match ← word? ws 0 with
    | none => beyond ws
    | some "!" =>
      advance ws true
      return !(← readPart ws steps .term)
    | some "(" =>
      advance ws true
      let rest := (ws.extract (← get) ws.size).toList
      let inner := rest.drop 1 |>.takeWhile (· ≠ ")")
      let count := inner.length + 1
      let count := if 4 ≤ count then rest.length else count
      let value ← readPart ws steps (.words count)
      match ← word? ws 0 with
      | none => throw (cited ")" ++ " expected")
      | some ")" =>
        advance ws false
        return value
      | some word => throw (cited ")" ++ " expected, found " ++ cited word)
    | some word =>
      let isBinaryAt (distance : Nat) : Testing Bool := do
        return binaryOperators.contains ((← word? ws distance).getD "")
      if 4 ≤ left && word = "-l" && (← isBinaryAt 2) then readBinary ws true
      else if 3 ≤ left && (← isBinaryAt 1) then readBinary ws false
      else if looksUnary word then readUnary ws
      else readOne ws
where
  /-- Reads three words. -/
  readThree (steps : Nat) : Testing Bool := do
    let first := (← word? ws 0).getD ""
    let second := (← word? ws 1).getD ""
    if binaryOperators.contains second then readBinary ws false
    else if first = "!" then
      advance ws true
      return !(← readTwo ws)
    else if first = "(" && (← word? ws 2) = some ")" then
      advance ws false
      let value ← readOne ws
      advance ws false
      return value
    else if second = "-a" || second = "-o" then readPart ws steps .either
    else throw (cited second ++ ": binary operator expected")

/-- The value of a condition, or what is wrong with it. -/
def value (words : List String) : Action (Except String Bool) := do
  let ws := words.toArray
  let read : Testing Bool := do
    if ws.isEmpty then return false
    let value ← readPart ws (8 * ws.size + 16) (.words ws.size)
    match ← word? ws 0 with
    | some word => throw ("extra argument " ++ cited word)
    | none => return value
  return (← (read.run).run 0).1

end Condition

/-- Tests a condition. -/
def testCondition : Program := fun c => do
  match ← Condition.value c.args with
  | .ok value => return if value then 0 else 1
  | .error reason => c.fail 2 reason

/-- Tests a condition that a bracket ends. -/
def testBracketed : Program := fun c =>
  if c.args.getLast? = some "]" then testCondition { c with args := c.args.dropLast }
  else c.fail 2 ("missing " ++ quoted "]")

end LuaBundler.Utility
