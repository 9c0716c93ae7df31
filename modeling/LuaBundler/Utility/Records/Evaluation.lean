import LuaBundler.Utility.Calendar
import LuaBundler.Utility.Records.Machine

/-!
# Running record programs

Expressions have values and statements have effects. Both are given the rules for what is inside of
them; `rules` ties them together.
-/

namespace LuaBundler.Utility.Records

open LuaBundler.Files LuaBundler.System LuaBundler.Text

/-- What expressions and statements do. -/
structure Rules where
  eval : Expr → Running Value
  exec : Stmt → Running Unit

namespace Rules

/-! ### Texts and numbers -/

/-- The text of an expression. -/
def text (r : Rules) (e : Expr) : Running String := do
  Running.textOf (← r.eval e)

/-- The number of an expression. -/
def number (r : Rules) (e : Expr) : Running Float := do
  return (← r.eval e).toNumber

/-- The whole number of an expression, as indices have it. -/
def index (r : Rules) (e : Expr) : Running Int := do
  return indexOf (← r.number e)

/-- The key of expressions; several are joined. -/
def key (r : Rules) (keys : List Expr) : Running Key := do
  match keys with
  | [e] => Running.keyOf (← r.eval e)
  | keys =>
    let texts ← keys.mapM r.text
    return .text ((← Running.variableText "SUBSEP").intercalate texts)

/-- The pattern of an expression. -/
def pattern (r : Rules) (e : Expr) : Running Regex.Compiled := do
  match e with
  | .pattern p => return p
  | e => Running.patternOf (← r.text e)

/-- Whether a text has a match. -/
def hasMatch (p : Regex.Compiled) (text : String) : Bool :=
  (p.search? (arrayOfOctets text) 0 false).isSome

/-- What an operator makes of two numbers. -/
def apply (op : Operator) (a b : Float) : Float :=
  match op with
  | .plus => a + b
  | .minus => a - b
  | .times => a * b
  | .divide => a / b
  | .modulo => remainder a b
  | .power => a.pow b

/-- Whether numbers or texts are related, given which comes first. -/
def relates (rel : Relation) (order : Ordering) : Bool :=
  match rel with
  | .less => order = .lt
  | .lessEqual => order ≠ .gt
  | .equal => order = .eq
  | .unequal => order ≠ .eq
  | .greater => order = .gt
  | .greaterEqual => order ≠ .lt

/-- Whether values are related: as numbers if both count as numbers. -/
def compare (rel : Relation) (a b : Value) : Running Bool := do
  match a.asNumber?, b.asNumber? with
  | some x, some y =>
    return relates rel (if x < y then .lt else if x == y then .eq else .gt)
  | _, _ =>
    let s ← Running.textOf a
    let t ← Running.textOf b
    return relates rel (if s < t then .lt else if s = t then .eq else .gt)

/-! ### Places -/

/-- The number of a field. -/
def fieldNumber (r : Rules) (e : Expr) : Running Nat := do
  let i ← r.index e
  if i < 0 then Running.fatal ("negative field index $" ++ integerText i) else return i.toNat

/-- Finds a place once, and gives its value and how it is set. -/
def place (r : Rules) (e : Expr) : Running (Running Value × (Value → Running Unit)) := do
  match e with
  | .name name => return (Running.value name, Running.setValue name)
  | .field e =>
    let i ← r.fieldNumber e
    return (Running.field i, Running.setField i)
  | .item array keys =>
    let k ← r.key keys
    let id ← Running.arrayOf array
    return (Running.withTable id fun t => t.get k, fun v =>
      Running.withTable id fun t => (t.set k v, ()))
  | e => return (r.eval e, fun _ => return ())

/-- Sets a place. -/
def set (r : Rules) (e : Expr) (v : Value) : Running Unit := do
  (← r.place e).2 v

/-- Puts a record that was read into a place, or makes it the record. -/
def putRecord (r : Rules) (place? : Option Expr) (text : String) : Running Unit :=
  match place? with
  | some e => r.set e (.outside text)
  | none => Running.setRecord (.outside text)

/-! ### Functions that every program has -/

/-- A part of a text, from a position on, and so long. -/
def part (s : String) (start : Int) (length? : Option Int) : String :=
  let length := length?.map fun n => if start < 0 then n - start else n
  let cs := s.toList.drop (max 1 start - 1).toNat
  String.ofList (match length with
    | some n => cs.take n.toNat
    | none => cs)

/-- Where a text stands in another one, counted from one; zero if it does not. -/
def positionIn (needle : List Char) : Nat → List Char → Nat
  | i, hay =>
    if needle.isPrefixOf hay then i
    else match hay with
      | [] => 0
      | _ :: rest => positionIn needle (i + 1) rest

/-- A replacement: pieces of text, and places for what was matched. -/
def replacementOf : Nat → List Char → List (Option Char)
  | 0, _ => []
  | steps + 1, cs =>
    match cs with
    | [] => []
    | '&' :: rest => none :: replacementOf steps rest
    | '\\' :: _ =>
      let slashes := cs.takeWhile (· = '\\')
      let rest := cs.drop slashes.length
      let keep (n : Nat) : List (Option Char) := List.replicate n (some '\\')
      match rest with
      | '&' :: rest =>
        keep (slashes.length / 2) ++
          (if slashes.length % 2 = 0 then none else some '&') :: replacementOf steps rest
      | rest => keep slashes.length ++ replacementOf steps rest
    | c :: rest => some c :: replacementOf steps rest

/-- The text of a replacement for a match. -/
def replaced (parts : List (Option Char)) (found : String) : String :=
  parts.foldl (fun s p => match p with
    | some c => s.push c
    | none => s ++ found) ""

/-- Replaces matches from a position on; gives how many and the pieces, the last one first. -/
def replaceWithin (p : Regex.Compiled) (parts : List (Option Char)) (isGlobal : Bool)
    (text : ByteArray) : Nat → Nat → Option Nat → Nat → List String → Nat × List String
  | 0, _, _, count, pieces => (count, pieces)
  | steps + 1, start, last?, count, pieces =>
    let piece (a b : Nat) : String := octetsOfArray (text.extract a b)
    if text.size < start then (count, pieces)
    else match (p.search? text start false).bind fun m => m.getD 0 none with
    | none => (count, piece start text.size :: pieces)
    | some (a, b) =>
      if a = b && last? = some a then
        replaceWithin p parts isGlobal text steps (a + 1) none count
          (piece a (min (a + 1) text.size) :: pieces)
      else
        let pieces := replaced parts (piece a b) :: piece start a :: pieces
        if !isGlobal then (count + 1, piece b text.size :: pieces)
        else if a = b then
          replaceWithin p parts isGlobal text steps (b + 1) none (count + 1)
            (piece b (min (b + 1) text.size) :: pieces)
        else replaceWithin p parts isGlobal text steps b (some b) (count + 1) pieces

/-- Replaces the first match or all matches in a place. -/
def substitute (r : Rules) (isGlobal : Bool) (args : List Expr) : Running Value := do
  match args with
  | e :: replacement :: rest =>
    let p ← r.pattern e
    let replacement ← r.text replacement
    let (get, set) ← r.place (rest.headD (.field (.number 0.0)))
    let text := arrayOfOctets (← Running.textOf (← get))
    let parts := replacementOf (replacement.length + 1) replacement.toList
    let (count, pieces) := replaceWithin p parts isGlobal text (2 * text.size + 4) 0 none 0 []
    if count ≠ 0 then set (.text (pieces.reverse.foldl (· ++ ·) ""))
    return .ofInt count
  | _ => return .absent

/-- Cuts a text into an array. -/
def split (r : Rules) (args : List Expr) : Running Value := do
  match args with
  | e :: .name array :: rest =>
    let text ← r.text e
    let separator ← match rest with
      | .pattern p :: _ => pure (Running.Separator.pattern p)
      | e :: _ => do Running.separatorOf (← r.text e)
      | [] => do Running.separatorOf (← Running.variableText "FS")
    let pieces := Running.cutText separator text
    let id ← Running.arrayOf array
    Running.withTable id fun _ => (Table.ofList (pieces.map Value.outside), ())
    return .ofInt pieces.length
  | _ => return .absent

/-- A text as a format says. -/
def formatted (r : Rules) (caller : String) (args : List Expr) :
    Running (String × Option String) := do
  let values ← args.mapM r.eval
  match values with
  | [] => return ("", none)
  | format :: values =>
    let format ← Running.textOf format
    let conversion ← Running.plainValue "CONVFMT"
    let (text, flaw?) := formatValues (Value.toText (conversion.toText "%.6g")) format values
    return (text, flaw?.map fun f => f.message caller format)

/-- The next number by chance, from zero to one. -/
def chance : Running Float := do
  let next := ((← get).chance * 6364136223846793005 + 1442695040888963407) % 18446744073709551616
  modify fun m => { m with chance := next }
  return Float.ofNat (next / 2048) / 9007199254740992.0

/-- Starts the numbers by chance anew; gives what they were started with before. -/
def reseed (v : Value) : Running Value := do
  let before := (← get).seed
  modify fun m => { m with seed := v, chance := (indexOf v.toNumber).natAbs + 1 }
  return before

/-- The value of a function that every program has. -/
def builtin (r : Rules) (b : Builtin) (args : List Expr) : Running Value := do
  let real (f : Float → Float) : Running Value := do
    match args with
    | e :: _ => return .number (f (← r.number e))
    | [] => return .absent
  let recased (f : Char → Char) : Running Value := do
    match args with
    | e :: _ => return .text (String.ofList ((← r.text e).toList.map f))
    | [] => return .absent
  match b, args with
  | .length, [] => return .ofInt (← Running.textOf (← Running.record)).length
  | .length, .name name :: _ =>
    match ← Running.slot? name with
    | some (.array id) => return .ofInt (← Running.withTable id fun t => (t, t.size))
    | _ => return .ofInt (← r.text (.name name)).length
  | .length, e :: _ => return .ofInt (← r.text e).length
  | .substr, e :: start :: rest =>
    let s ← r.text e
    let start ← r.index start
    let length? ← rest.head?.mapM r.index
    return .text (part s start length?)
  | .index, a :: b :: _ =>
    let hay ← r.text a
    let needle ← r.text b
    return .ofInt (if needle = "" then 1 else positionIn needle.toList 1 hay.toList)
  | .split, args => r.split args
  | .sub, args => r.substitute false args
  | .gsub, args => r.substitute true args
  | .match_, e :: p :: _ =>
    let text ← r.text e
    let p ← r.pattern p
    let found := (p.search? (arrayOfOctets text) 0 false).bind fun m => m.getD 0 none
    let (start, length) : Int × Int := match found with
      | some (a, b) => (a + 1, b - a)
      | none => (0, -1)
    Running.setValue "RSTART" (.ofInt start)
    Running.setValue "RLENGTH" (.ofInt length)
    return .ofInt start
  | .sprintf, args =>
    let (text, flaw?) ← r.formatted "sprintf" args
    match flaw? with
    | none => return .text text
    | some flaw => Running.fatal flaw
  | .sin, _ => real Float.sin
  | .cos, _ => real Float.cos
  | .atan2, a :: b :: _ =>
    let y ← r.number a
    let x ← r.number b
    return .number (Float.atan2 y x)
  | .exp, _ => real Float.exp
  | .log, _ => real Float.log
  | .sqrt, _ => real Float.sqrt
  | .int, _ => real fun x => if x < 0.0 then x.ceil else x.floor
  | .rand, _ => return .number (← chance)
  | .srand, e :: _ => reseed (← r.eval e)
  | .srand, [] =>
    let now : Nat ← Running.ask .now
    reseed (.ofInt (clockStart + (now / 1000000 : Nat)))
  | .tolower, _ => recased Char.toLower
  | .toupper, _ => recased Char.toUpper
  | .system, e :: _ => return .ofInt (← Running.runCommand (← r.text e))
  | .close, e :: _ => return .ofInt (← Running.closeNamed (← r.text e))
  | .fflush, _ =>
    Running.flushAll
    return .number 0.0
  | _, _ => return .absent

/-! ### Functions of the program -/

/-- What a parameter stands for: arrays are handed over themselves. -/
def argument (r : Rules) (e : Expr) : Running (Option Slot) := do
  match e with
  | .name name =>
    match ← Running.slot? name with
    | some (.array id) => return some (.array id)
    | some (.scalar _) => return some (.scalar (← Running.value name))
    | none => if name = "NF" then return some (.scalar (← Running.value name)) else return none
  | e => return some (.scalar (← r.eval e))

/-- Calls a function. A variable that has not been used becomes an array if the function uses its
parameter as one. -/
def call (r : Rules) (name : String) (args : List Expr) : Running Value := do
  match (← get).functions[name]? with
  | none => Running.fatal ("function " ++ name ++ " never defined")
  | some f =>
    discard (Running.ask (.work 1))
    let slots ← args.mapM r.argument
    let bare := (f.params.zip (args.zip slots)).filterMap fun (param, e, slot?) =>
      match e, slot? with
      | .name name, none => some (param, name)
      | _, _ => none
    let params := f.params.zipIdx.map fun (param, i) =>
      (param, (slots.getD i none).getD (.scalar .absent))
    let outer := (← get).params
    modify fun m => { m with params }
    let result ← ExceptT.lift (r.exec f.body).run
    let inner := (← get).params
    modify fun m => { m with params := outer }
    for (param, name) in bare do
      match inner.lookup param with
      | some (.array id) => Running.setSlot name (.array id)
      | _ => pure ()
    match result with
    | .ok _ => return .absent
    | .error (.return_ v) => return v
    | .error jump => throw jump

/-! ### Expressions -/

/-- Changes a place by an operator. -/
def update (r : Rules) (op : Operator) (place e : Expr) : Running Value := do
  let b ← r.number e
  let (get, set) ← r.place place
  let v := Value.number (apply op (← get).toNumber b)
  set v
  return v

/-- The value of an expression. -/
def evalExpr (r : Rules) (e : Expr) : Running Value := do
  match e with
  | .number x => return .number x
  | .text s => return .text s
  | .pattern p => return .ofBool (hasMatch p (← Running.textOf (← Running.record)))
  | .name name => Running.value name
  | .field e => Running.field (← r.fieldNumber e)
  | .item array keys =>
    let k ← r.key keys
    let id ← Running.arrayOf array
    Running.withTable id fun t => t.get k
  | .assign none place e =>
    let v ← r.eval e
    r.set place v
    return v
  | .assign (some op) place e => r.update op place e
  | .step isUp givesNew place =>
    let (get, set) ← r.place place
    let before := (← get).toNumber
    let after := if isUp then before + 1.0 else before - 1.0
    set (.number after)
    return .number (if givesNew then after else before)
  | .negated e => return .ofBool (!(← r.eval e).holds)
  | .minus e => return .number (-(← r.number e))
  | .plus e => return .number (← r.number e)
  | .binary op a b =>
    let x ← r.number a
    let y ← r.number b
    return .number (apply op x y)
  | .joined a b =>
    let s ← r.text a
    let t ← r.text b
    return .text (s ++ t)
  | .compare rel a b =>
    let x ← r.eval a
    let y ← r.eval b
    return .ofBool (← compare rel x y)
  | .matches_ isNegated a b =>
    let s ← r.text a
    let p ← r.pattern b
    return .ofBool (hasMatch p s != isNegated)
  | .and a b =>
    if (← r.eval a).holds then return .ofBool (← r.eval b).holds else return .ofBool false
  | .or a b =>
    if (← r.eval a).holds then return .ofBool true else return .ofBool (← r.eval b).holds
  | .choice c a b => if (← r.eval c).holds then r.eval a else r.eval b
  | .has keys array =>
    let k ← r.key keys
    let id ← Running.arrayOf array
    return .ofBool (← Running.withTable id fun t => t.has k)
  | .call name args => r.call name args
  | .builtin b args => r.builtin b args
  | .getline place? =>
    match ← Running.nextOfInput 1000000 with
    | none => return .number 0.0
    | some text =>
      r.putRecord place? text
      return .number 1.0
  | .getlineFrom file place? =>
    match ← Running.nextOfIntake (← r.text file) false with
    | .error _ => return .number (-1.0)
    | .ok none => return .number 0.0
    | .ok (some text) =>
      r.putRecord place? text
      return .number 1.0
  | .getlineOf command place? =>
    match ← Running.nextOfIntake (← r.text command) true with
    | .error _ => return .number (-1.0)
    | .ok none => return .number 0.0
    | .ok (some text) =>
      r.putRecord place? text
      return .number 1.0
  | .group e => r.eval e

/-! ### Statements -/

/-- Writes a text to where it goes. -/
def putOut (r : Rules) (outlet? : Option Outlet) (text : String) : Running Unit := do
  match outlet? with
  | none => Running.put text
  | some (.file e) => Running.putInto (← r.text e) false false text
  | some (.append e) => Running.putInto (← r.text e) false true text
  | some (.pipe e) => Running.putInto (← r.text e) true false text

/-- The text of a value as it is printed. -/
def printed (v : Value) : Running String := do
  match v with
  | .number x =>
    match wholeText? x with
    | some s => return s
    | none => return (Value.number x).toText ((← Running.plainValue "OFMT").toText "%.6g")
  | v => return v.toText ""

/-- Repeats a body while a condition holds; a step comes between. -/
def repeat_ (r : Rules) (condition : Running Bool) (body : Stmt) (step : Running Unit) :
    Nat → Running Unit
  | 0 => return ()
  | steps + 1 => do
    if ← condition then
      discard (Running.ask (.work 1))
      let result ← ExceptT.lift (r.exec body).run
      match result with
      | .ok _ | .error .continue_ =>
        step
        repeat_ r condition body step steps
      | .error .break_ => return ()
      | .error jump => throw jump

/-- Does the body of a loop for each key. -/
def forKeys (r : Rules) (name : String) (body : Stmt) : List String → Running Unit
  | [] => return ()
  | key :: keys => do
    Running.setValue name (.text key)
    let result ← ExceptT.lift (r.exec body).run
    match result with
    | .ok _ | .error .continue_ => forKeys r name body keys
    | .error .break_ => return ()
    | .error jump => throw jump

/-- Does statements one after the other. -/
def execAll (r : Rules) : List Stmt → Running Unit
  | [] => return ()
  | s :: rest => do
    r.exec s
    execAll r rest

/-- Does a statement. -/
def execStmt (r : Rules) (s : Stmt) : Running Unit := do
  match s with
  | .expr e => discard (r.eval e)
  | .print args outlet? =>
    let texts ← if args.isEmpty then do
        pure [← printed (← Running.record)]
      else args.mapM fun e => do printed (← r.eval e)
    let between ← Running.variableText "OFS"
    let ending ← Running.variableText "ORS"
    r.putOut outlet? (between.intercalate texts ++ ending)
  | .printf args outlet? =>
    let (text, flaw?) ← r.formatted "printf" args
    r.putOut outlet? text
    match flaw? with
    | none => return ()
    | some flaw => Running.fatal flaw
  | .branch c a b? =>
    if (← r.eval c).holds then r.exec a
    else match b? with
      | some b => r.exec b
      | none => return ()
  | .while_ c body =>
    r.repeat_ (do return (← r.eval c).holds) body (return ()) maxSteps
  | .doWhile body c =>
    let result ← ExceptT.lift (r.exec body).run
    match result with
    | .ok _ | .error .continue_ =>
      r.repeat_ (do return (← r.eval c).holds) body (return ()) maxSteps
    | .error .break_ => return ()
    | .error jump => throw jump
  | .for_ start? c? step? body =>
    if let some start := start? then r.exec start
    let condition : Running Bool := match c? with
      | some c => do return (← r.eval c).holds
      | none => return true
    let step : Running Unit := match step? with
      | some step => r.exec step
      | none => return ()
    r.repeat_ condition body step maxSteps
  | .forIn name array body =>
    let id ← Running.arrayOf array
    let keys ← Running.withTable id Table.keys
    r.forKeys name body keys
  | .block body => r.execAll body
  | .break_ => throw .break_
  | .continue_ => throw .continue_
  | .next => throw .next
  | .nextFile => throw .nextFile
  | .exit e? =>
    if let some e := e? then
      let n := wholeWithin (-2147483648) 2147483647 (← r.number e)
      modify fun m => { m with status := (n % 256).toNat }
    throw .exit
  | .return_ e? =>
    match e? with
    | some e => throw (.return_ (← r.eval e))
    | none => throw (.return_ .absent)
  | .delete array [] =>
    let id ← Running.arrayOf array
    Running.withTable id fun _ => ({}, ())
  | .delete array keys =>
    let k ← r.key keys
    let id ← Running.arrayOf array
    Running.withTable id fun t => (t.erase k, ())

end Rules

/-- What expressions and statements do that are nested so deeply at most. -/
def rules : Nat → Rules
  | 0 => ⟨fun _ => Running.fatal "too deeply nested", fun _ => Running.fatal "too deeply nested"⟩
  | depth + 1 => ⟨fun e => Rules.evalExpr (rules depth) e, fun s => Rules.execStmt (rules depth) s⟩

/-! ### Programs -/

namespace Running

/-- How deeply a program may be nested. -/
def maxDepth : Nat := 1000000000

/-- Does what a rule says. -/
def act_ (rule : Rule) : Running Unit := do
  match rule.action? with
  | some s => (rules maxDepth).exec s
  | none => (rules maxDepth).exec (.print [] none)

/-- Whether a rule is for the record. -/
def applies (number : Nat) (rule : Rule) : Running Bool := do
  let holds (e : Expr) : Running Bool := do return (← (rules maxDepth).eval e).holds
  match rule.guard with
  | .start | .finish => return false
  | .always => return true
  | .when_ e => holds e
  | .range a b =>
    let isInside := (← get).entered.contains number
    if isInside || (← holds a) then
      let isLast ← holds b
      modify fun m =>
        let others := m.entered.filter (· != number)
        { m with entered := if isLast then others else number :: others }
      return true
    else return false

/-- Applies rules to the record. -/
def applyRules : List (Rule × Nat) → Running Unit
  | [] => return ()
  | (rule, number) :: rest => do
    if ← applies number rule then act_ rule
    applyRules rest

/-- Goes through the input. -/
def throughInput (rules : List (Rule × Nat)) : Nat → Running Unit
  | 0 => return ()
  | steps + 1 => do
    match ← nextOfInput 1000000 with
    | none => return ()
    | some text =>
      discard (ask (.work 1))
      setRecord (.outside text)
      let result ← ExceptT.lift (applyRules rules).run
      match result with
      | .ok _ | .error .next => throughInput rules steps
      | .error .nextFile =>
        closeInput
        throughInput rules steps
      | .error jump => throw jump

/-- Runs a program to its end. -/
def run (s : Script) : Running Unit := do
  let numbered := s.rules.zipIdx
  let isStart (r : Rule) : Bool := match r.guard with
    | .start => true
    | _ => false
  let isFinish (r : Rule) : Bool := match r.guard with
    | .finish => true
    | _ => false
  let middle := numbered.filter fun r => !isStart r.1 && !isFinish r.1
  let finish := s.rules.filter isFinish
  let first : Running Unit := do
    for r in s.rules.filter isStart do
      act_ r
    if !middle.isEmpty || !finish.isEmpty then throughInput middle maxSteps
  let last : Running Unit := do
    for r in finish do
      act_ r
  let ended ← ExceptT.lift (ExceptT.run first)
  match ended with
  | .ok _ | .error .exit => discard (ExceptT.lift (ExceptT.run last))
  | .error _ => pure ()
  quit (← get).status

end Running

end LuaBundler.Utility.Records
