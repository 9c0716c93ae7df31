import LuaBundler.Utility.Records.Token

/-!
# Reading record programs

Rules for parts of expressions and statements are given the rules for what is inside of them;
`exprWithin` and `stmtWithin` tie them together.
-/

namespace LuaBundler.Utility.Records

/-- The state of reading: the tokens that are left, and what surrounds them. -/
structure Reader where
  rest : List Lexeme
  /-- The line of the end. -/
  lastLine : Nat := 1
  /-- How many parentheses and braces are open. -/
  parens : Nat := 0
  braces : Nat := 0
  /-- Whether a greater sign names a file. -/
  printing : Bool := false
  inFunction : Bool := false
  inRule : Bool := false
  loops : Nat := 0
  /-- The functions that are called, with how many arguments and in which line. -/
  called : List (String × Nat × Nat) := []
  /-- The parameters of the function that is being read. -/
  params : List String := []
  /-- The names that are arrays, and those that are not; for parameters with a mark before them. -/
  arrays : List String := ["ARGV", "ENVIRON"]
  scalars : List String := []

/-- What reads a part of a program. -/
abbrev Reading := EStateM Flaw Reader

namespace Reading

/-! ### Tokens -/

/-- The next token. -/
def peek : Reading Lexeme := do
  let r ← get
  return r.rest.headD ⟨.finish, "end of line", r.lastLine⟩

/-- The token after the next one. -/
def peekSecond : Reading Token := do
  return ((← get).rest.drop 1).head?.map (·.token) |>.getD .finish

/-- Goes on to the next token. -/
def advance : Reading Unit :=
  modify fun r => { r with rest := r.rest.drop 1 }

/-- Complains in a line. -/
def failAt {α : Type} (line : Nat) (text : String) : Reading α :=
  throw (.atLine line text)

/-- Complains of the next token. -/
def unexpected {α : Type} : Reading α := do
  let r ← get
  let l ← peek
  match l.token with
  | .finish =>
    if 0 < r.braces then failAt (r.lastLine + 1) "missing \x7d near end of file"
    else failAt l.line "syntax error at or near end of line"
  | _ =>
    if 0 < r.parens && l.spelled = "\x7d" then failAt l.line "missing ) near \x7d"
    else failAt l.line ("syntax error at or near " ++ l.spelled)

/-- Whether the next token is a sign. -/
def atSign (s : String) : Reading Bool := do
  match (← peek).token with
  | .sign t => return s = t
  | _ => return false

/-- Whether the next token is a word. -/
def atWord (s : String) : Reading Bool := do
  match (← peek).token with
  | .word t => return s = t
  | _ => return false

/-- Goes on over a sign if it is the next token. -/
def takeSign (s : String) : Reading Bool := do
  if ← atSign s then
    advance
    return true
  else return false

/-- Goes on over a sign, which has to be the next token. -/
def expect (s : String) : Reading Unit := do
  if !(← takeSign s) then unexpected

/-- Goes on over the ends of lines. -/
def skipLines : Reading Unit :=
  modify fun r => { r with rest := r.rest.dropWhile fun l => match l.token with
    | .newline => true
    | _ => false }

/-- Goes on over the ends of lines and semicolons. -/
def skipEnds : Reading Unit :=
  modify fun r => { r with rest := r.rest.dropWhile fun l => match l.token with
    | .newline => true
    | .sign s => s = ";"
    | _ => false }

/-- How often a rule may be repeated. -/
def bound : Reading Nat := do
  return (← get).rest.length + 1

/-- Reads something between parentheses. -/
def inParens {α : Type} (inner : Reading α) : Reading α := do
  expect "("
  let printing := (← get).printing
  modify fun r => { r with parens := r.parens + 1, printing := false }
  let a ← inner
  expect ")"
  modify fun r => { r with parens := r.parens - 1, printing }
  return a

/-- Reads something between brackets. -/
def inBrackets {α : Type} (inner : Reading α) : Reading α := do
  expect "["
  let printing := (← get).printing
  modify fun r => { r with printing := false }
  let a ← inner
  expect "]"
  modify fun r => { r with printing }
  return a

/-- Reads expressions with commas between them. -/
def readList (expr : Reading Expr) : Nat → Reading (List Expr)
  | 0 => return []
  | steps + 1 => do
    let e ← expr
    if ← takeSign "," then
      skipLines
      return e :: (← readList expr steps)
    else return [e]

/-- Reads expressions with commas between them, or none up to a sign. -/
def readListUpTo (expr : Reading Expr) (stop : String) : Reading (List Expr) := do
  if ← atSign stop then return [] else readList expr (← bound)

/-! ### Operands -/

/-- The operator of a sign that sets a place. -/
def assignment? (s : String) : Option (Option Operator) :=
  [("=", none), ("+=", some Operator.plus), ("-=", some .minus), ("*=", some .times),
    ("/=", some .divide), ("%=", some .modulo), ("^=", some .power)].lookup s

/-- Reads the pattern of a text. -/
def patternOf (line : Nat) (s : String) : Reading Regex.Compiled :=
  match Pattern.read s with
  | .ok p => return p
  | .error e =>
    failAt line ("regular expression compile failed (" ++ e.message ++ ")\n" ++ s)

/-- Checks the patterns that texts stand for. -/
def checkPattern (line : Nat) : Expr → Reading Unit
  | .text s => discard (patternOf line s)
  | _ => return ()

/-- What may follow a place: steps and what it is set to. -/
def placeTail (expr : Reading Expr) (e : Expr) : Reading Expr := do
  match (← peek).token with
  | .sign "++" =>
    advance
    return .step true false e
  | .sign "--" =>
    advance
    return .step false false e
  | .sign s =>
    match assignment? s with
    | some op? =>
      advance
      skipLines
      return .assign op? e (← expr)
    | none => return e
  | _ => return e

/-- A name with a mark before it if it is that of a parameter. -/
def marked (name : String) : Reading String := do
  return if (← get).params.contains name then "(" ++ name else name

/-- Takes note of the use of a name as an array, and complains if it is none. -/
def useArray (name : String) : Reading Unit := do
  let key ← marked name
  if (← get).scalars.contains key then
    let kind := if key = name then "variable " else "local variable "
    failAt (← peek).line ("illegal reference to " ++ kind ++ name)
  modify fun r => { r with arrays := key :: r.arrays.filter (· != key) }

/-- Takes note of the use of a name as a variable, and complains if it is an array. -/
def useScalar (name : String) : Reading Unit := do
  let key ← marked name
  if (← get).arrays.contains key then
    let kind := if key = name then "array " else "local array "
    failAt (← peek).line ("illegal reference to " ++ kind ++ name)
  modify fun r => { r with scalars := key :: r.scalars.filter (· != key) }

/-- Reads a name, which may have keys. -/
def readName (expr : Reading Expr) (name : String) : Reading Expr := do
  advance
  if ← atSign "[" then
    useArray name
    return .item name (← inBrackets do readList expr (← bound))
  else
    useScalar name
    return .name name

/-- Reads an argument; a mere name may be that of an array. -/
def readArgument (expr : Reading Expr) : Reading Expr := do
  match (← peek).token, ← peekSecond with
  | .name name, .sign s =>
    if s = "," || s = ")" then
      advance
      return .name name
    else expr
  | _, _ => expr

/-- Reads the name of an array. -/
def readArray : Reading String := do
  match (← peek).token with
  | .name array =>
    advance
    useArray array
    return array
  | _ => unexpected

/-- Reads the arguments of the function that cuts a text: what comes second is an array. -/
def readSplit (expr : Reading Expr) : Reading (List Expr) := do
  let text ← expr
  expect ","
  skipLines
  let array ← readArray
  if ← takeSign "," then
    skipLines
    return [text, .name array, ← expr]
  else return [text, .name array]

/-- Reads the arguments of a function that every program has. -/
def readBuiltin (expr : Reading Expr) (b : Builtin) (least most : Nat) : Reading Expr := do
  let l ← peek
  advance
  let hasArgs ← atSign "("
  if b = .length && !hasArgs then return .builtin b []
  if !hasArgs then
    if least = 0 then return .builtin b [] else unexpected
  let args ← inParens do
    let args ← if b = .split then readSplit expr
      else readListUpTo (if b = .length then readArgument expr else expr) ")"
    match b with
    | .length => if 1 < args.length then
        failAt l.line "syntax error at or near ,"
    | .split | .match_ | .sub | .gsub =>
      if args.length < least then unexpected
      match b, args with
      | .sub, p :: _ | .gsub, p :: _ | .match_, _ :: p :: _ => checkPattern l.line p
      | _, _ => pure ()
    | _ => pure ()
    return args
  if args.length < least || most < args.length then
    failAt l.line ("wrong number of arguments in call to " ++ l.spelled)
  return .builtin b args

/-- Reads what is in parentheses: an expression, or several as the keys of an array. -/
def readGroup (expr : Reading Expr) : Reading Expr := do
  let es ← inParens do readList expr (← bound)
  match es with
  | [e] => return .group e
  | es =>
    if ← atWord "in" then
      advance
      return .has es (← readArray)
    else unexpected

/-- Reads what a dollar sign or a step works on. -/
def readPlace (expr : Reading Expr) : Nat → Reading Expr
  | 0 => unexpected
  | steps + 1 => do
    let l ← peek
    match l.token with
    | .sign "$" =>
      advance
      return .field (← readPlace expr steps)
    | .sign "++" =>
      advance
      return .step true true (← readPlace expr steps)
    | .sign "--" =>
      advance
      return .step false true (← readPlace expr steps)
    | .sign "-" =>
      advance
      return .minus (← readPlace expr steps)
    | .sign "+" =>
      advance
      return .plus (← readPlace expr steps)
    | .sign "!" =>
      advance
      return .negated (← readPlace expr steps)
    | .sign "(" => readGroup expr
    | .name name => readName expr name
    | .number x =>
      advance
      return .number x
    | .text s =>
      advance
      return .text s
    | .builtin b least most => readBuiltin expr b least most
    | .call name =>
      advance
      let args ← inParens (readListUpTo (readArgument expr) ")")
      modify fun r => { r with called := (name, args.length, l.line) :: r.called }
      return .call name args
    | _ => unexpected

/-- Reads a place if there is one. -/
def readPlace? (expr : Reading Expr) : Reading (Option Expr) := do
  match (← peek).token with
  | .sign "$" | .name _ => return some (← readPlace expr (← bound))
  | _ => return none

/-- Reads an operand. -/
def readOperand (expr : Reading Expr) (steps : Nat) : Reading Expr := do
  let l ← peek
  match l.token with
  | .pattern s =>
    advance
    return .pattern (← patternOf l.line s)
  | .sign "$" => placeTail expr (← readPlace expr steps)
  | .name _ => placeTail expr (← readPlace expr steps)
  | .sign "++" | .sign "--" | .sign "(" | .number _ | .text _ | .builtin .. | .call _ =>
    readPlace expr steps
  | .word "getline" =>
    advance
    let place? ← readPlace? expr
    if ← takeSign "<" then return .getlineFrom (← readPlace expr steps) place?
    else return .getline place?
  | _ => unexpected

/-! ### Operators -/

/-- Reads a power. -/
def readPower (expr : Reading Expr) : Nat → Reading Expr
  | 0 => unexpected
  | steps + 1 => do
    let base ← readOperand expr steps
    if ← takeSign "^" then
      if ← takeSign "-" then return .binary .power base (.minus (← readPower expr steps))
      else if ← takeSign "+" then return .binary .power base (.plus (← readPower expr steps))
      else if ← takeSign "!" then return .binary .power base (.negated (← readPower expr steps))
      else return .binary .power base (← readPower expr steps)
    else return base

/-- Reads on while records of commands are read. -/
def readPipes (expr : Reading Expr) : Nat → Expr → Reading Expr
  | 0, e => return e
  | steps + 1, e => do
    if ← atSign "|" then
      match ← peekSecond with
      | .word "getline" =>
        advance
        advance
        readPipes expr steps (.getlineOf e (← readPlace? expr))
      | _ => return e
    else return e

/-- Reads signs before an operand. -/
def readSigned (expr : Reading Expr) : Nat → Reading Expr
  | 0 => unexpected
  | steps + 1 => do
    if ← takeSign "!" then return .negated (← readSigned expr steps)
    else if ← takeSign "-" then return .minus (← readSigned expr steps)
    else if ← takeSign "+" then return .plus (← readSigned expr steps)
    else readPipes expr (← bound) (← readPower expr (← bound))

/-- Reads on while one of several operators follows. -/
def readChain (operators : List (String × Operator)) (inner : Reading Expr) :
    Nat → Expr → Reading Expr
  | 0, e => return e
  | steps + 1, e => do
    match (← peek).token with
    | .sign s =>
      match operators.lookup s with
      | some op =>
        advance
        readChain operators inner steps (.binary op e (← inner))
      | none => return e
    | _ => return e

/-- Reads a product. -/
def readProduct (expr : Reading Expr) : Reading Expr := do
  let factor := do readSigned expr (← bound)
  readChain [("*", .times), ("/", .divide), ("%", .modulo)] factor (← bound) (← factor)

/-- Reads a sum. -/
def readSum (expr : Reading Expr) : Reading Expr := do
  readChain [("+", .plus), ("-", .minus)] (readProduct expr) (← bound) (← readProduct expr)

/-- Whether a token can go on with a text. -/
def startsOperand : Token → Bool
  | .number _ | .text _ | .pattern _ | .name _ | .call _ | .builtin .. => true
  | .sign s => ["$", "!", "(", "++", "--"].contains s
  | _ => false

/-- Reads texts after each other. -/
def readJoined (expr : Reading Expr) : Nat → Expr → Reading Expr
  | 0, e => return e
  | steps + 1, e => do
    if startsOperand (← peek).token then readJoined expr steps (.joined e (← readSum expr))
    else return e

/-- The comparison of a sign. -/
def relation? (s : String) : Option Relation :=
  [("<", .less), ("<=", .lessEqual), ("==", .equal), ("!=", .unequal), (">", .greater),
    (">=", .greaterEqual)].lookup s

/-- Reads comparisons. -/
def readComparisons (expr : Reading Expr) : Nat → Expr → Reading Expr
  | 0, e => return e
  | steps + 1, e => do
    match (← peek).token with
    | .sign s =>
      match relation? s with
      | some r =>
        if s = ">" && (← get).printing then return e
        advance
        let b ← readSum expr
        readComparisons expr steps (.compare r e (← readJoined expr (← bound) b))
      | none => return e
    | _ => return e

/-- Reads a comparison. -/
def readComparison (expr : Reading Expr) : Reading Expr := do
  let a ← readJoined expr (← bound) (← readSum expr)
  readComparisons expr (← bound) a

/-- Reads matches. -/
def readMatches (expr : Reading Expr) : Nat → Expr → Reading Expr
  | 0, e => return e
  | steps + 1, e => do
    let l ← peek
    match l.token with
    | .sign "~" | .sign "!~" =>
      advance
      let b ← readComparison expr
      checkPattern l.line b
      readMatches expr steps (.matches_ (l.spelled = "!~") e b)
    | _ => return e

/-- Reads on while it is asked whether arrays have keys. -/
def readHas : Nat → Expr → Reading Expr
  | 0, e => return e
  | steps + 1, e => do
    if ← atWord "in" then
      advance
      readHas steps (.has [e] (← readArray))
    else return e

/-- Reads a match, and whether an array has it. -/
def readMembership (expr : Reading Expr) : Reading Expr := do
  let a ← readMatches expr (← bound) (← readComparison expr)
  readHas (← bound) a

/-- Reads on while a sign joins expressions. -/
def readLogic (s : String) (make : Expr → Expr → Expr) (inner : Reading Expr) :
    Nat → Expr → Reading Expr
  | 0, e => return e
  | steps + 1, e => do
    if ← takeSign s then
      skipLines
      readLogic s make inner steps (make e (← inner))
    else return e

/-- Reads an expression. -/
def readExpr (expr : Reading Expr) : Reading Expr := do
  let both := do readLogic "&&" .and (readMembership expr) (← bound) (← readMembership expr)
  let c ← readLogic "||" .or both (← bound) (← both)
  if ← takeSign "?" then
    skipLines
    let a ← expr
    skipLines
    expect ":"
    skipLines
    return .choice c a (← expr)
  else return c

/-- Reads an expression that is nested so deeply at most. -/
def exprWithin : Nat → Reading Expr
  | 0 => unexpected
  | depth + 1 => readExpr (exprWithin depth)

/-- Reads an expression. -/
def expression : Reading Expr := do
  exprWithin (← bound)

/-! ### Statements -/

/-- Goes on over the end of a simple statement. -/
def endStatement : Reading Unit := do
  match (← peek).token with
  | .newline | .sign ";" =>
    advance
    skipLines
  | .sign "\x7d" | .finish => return ()
  | _ => unexpected

/-- Whether a token ends what is printed. -/
def endsPrinted : Token → Bool
  | .newline | .finish => true
  | .sign s => [";", "\x7d", ">", ">>", "|"].contains s
  | _ => false

/-- Whether a token ends a statement. -/
def endsSimple : Token → Bool
  | .newline | .finish => true
  | .sign s => s = ";" || s = "\x7d"
  | _ => false

/-- Whether the parentheses that follow hold all that is printed. -/
def holdsAll : Nat → Nat → List Lexeme → Bool
  | 0, _, _ => false
  | _ + 1, _, [] => true
  | steps + 1, depth, l :: rest =>
    match l.token with
    | .sign "(" => holdsAll steps (depth + 1) rest
    | .sign ")" =>
      if depth = 1 then (rest.head?.map fun l => endsPrinted l.token).getD true
      else holdsAll steps (depth - 1) rest
    | _ => holdsAll steps depth rest

/-- Reads where output goes. -/
def readOutlet : Reading (Option Outlet) := do
  if ← takeSign ">" then return some (.file (← expression))
  else if ← takeSign ">>" then return some (.append (← expression))
  else if ← takeSign "|" then return some (.pipe (← expression))
  else return none

/-- Reads what is printed, and where it goes. -/
def readPrinted : Reading (List Expr × Option Outlet) := do
  modify fun r => { r with printing := true }
  let isHeld := (← atSign "(") && holdsAll (← bound) 0 (← get).rest
  let endsHere := endsPrinted (← peek).token
  let args ← if isHeld then inParens (readListUpTo expression ")")
    else if endsHere then pure []
    else readList expression (← bound)
  let outlet ← readOutlet
  modify fun r => { r with printing := false }
  return (args, outlet)

/-- Reads a statement without its end. -/
def readSimple : Reading Stmt := do
  let l ← peek
  let value? : Reading (Option Expr) := do
    if endsSimple (← peek).token then return none else return some (← expression)
  match l.token with
  | .word "print" =>
    advance
    let (args, outlet?) ← readPrinted
    return .print args outlet?
  | .word "printf" =>
    advance
    let (args, outlet?) ← readPrinted
    if args.isEmpty then failAt l.line "no arguments in call to printf"
    return .printf args outlet?
  | .word "break" =>
    if (← get).loops = 0 then failAt l.line "break statement outside of loop"
    advance
    return .break_
  | .word "continue" =>
    if (← get).loops = 0 then failAt l.line "continue statement outside of loop"
    advance
    return .continue_
  | .word "next" =>
    if !(← get).inRule then failAt l.line "improper use of next"
    advance
    return .next
  | .word "nextfile" =>
    if !(← get).inRule then failAt l.line "improper use of next"
    advance
    return .nextFile
  | .word "exit" =>
    advance
    return .exit (← value?)
  | .word "return" =>
    if !(← get).inFunction then failAt l.line "return outside function body"
    advance
    return .return_ (← value?)
  | .word "delete" =>
    advance
    let array ← readArray
    if ← atSign "[" then
      return .delete array (← inBrackets do readList expression (← bound))
    else return .delete array []
  | _ => return .expr (← expression)

/-- Reads a statement that may be left out up to a sign. -/
def readSimple? (stop : String) : Reading (Option Stmt) := do
  if ← atSign stop then return none else return some (← readSimple)

/-- Reads the body of a loop. -/
def readBody (stmt : Reading Stmt) : Reading Stmt := do
  modify fun r => { r with loops := r.loops + 1 }
  if ← takeSign ";" then
    skipLines
    modify fun r => { r with loops := r.loops - 1 }
    return .block []
  else
    skipLines
    let body ← stmt
    modify fun r => { r with loops := r.loops - 1 }
    return body

/-- Reads statements up to a closing brace. -/
def readBlock (stmt : Reading Stmt) : Nat → Reading (List Stmt)
  | 0 => unexpected
  | steps + 1 => do
    skipEnds
    if ← atSign "\x7d" then return []
    else
      let s ← stmt
      return s :: (← readBlock stmt steps)

/-- Reads statements between braces. -/
def inBraces (stmt : Reading Stmt) : Reading Stmt := do
  expect "\x7b"
  modify fun r => { r with braces := r.braces + 1 }
  let body ← readBlock stmt (← bound)
  expect "\x7d"
  modify fun r => { r with braces := r.braces - 1 }
  return .block body

/-- Reads the head of a loop with a counter, and its body. -/
def readFor (stmt : Reading Stmt) : Reading Stmt := do
  let tokens : List Token := (← get).rest.map fun l => l.token
  match tokens with
  | .sign "(" :: .name name :: .word "in" :: .name array :: .sign ")" :: _ =>
    modify fun r => { r with rest := r.rest.drop 5 }
    useScalar name
    useArray array
    return .forIn name array (← readBody stmt)
  | _ =>
    let (start?, c?, step?) ← inParens do
      let start? ← readSimple? ";"
      expect ";"
      skipLines
      let c? ← if ← atSign ";" then pure none else pure (some (← expression))
      expect ";"
      skipLines
      return (start?, c?, ← readSimple? ")")
    return .for_ start? c? step? (← readBody stmt)

/-- Reads a branch after its condition. -/
def readBranch (stmt : Reading Stmt) (c : Expr) : Reading Stmt := do
  let body : Reading Stmt := do
    if ← takeSign ";" then
      skipLines
      return .block []
    else
      skipLines
      stmt
  let a ← body
  let rest := (← get).rest
  skipEnds
  if ← atWord "else" then
    advance
    return .branch c a (some (← body))
  else
    modify fun r => { r with rest }
    return .branch c a none

/-- Reads a statement. -/
def readStmt (stmt : Reading Stmt) : Reading Stmt := do
  match (← peek).token with
  | .sign "\x7b" =>
    let body ← inBraces stmt
    skipLines
    return body
  | .sign ";" =>
    advance
    skipLines
    return .block []
  | .word "if" =>
    advance
    readBranch stmt (← inParens expression)
  | .word "while" =>
    advance
    let c ← inParens expression
    return .while_ c (← readBody stmt)
  | .word "for" =>
    advance
    readFor stmt
  | .word "do" =>
    advance
    let body ← readBody stmt
    skipEnds
    if ← atWord "while" then
      advance
      let c ← inParens expression
      endStatement
      return .doWhile body c
    else unexpected
  | _ =>
    let s ← readSimple
    endStatement
    return s

/-- Reads a statement that is nested so deeply at most. -/
def stmtWithin : Nat → Reading Stmt
  | 0 => unexpected
  | depth + 1 => readStmt (stmtWithin depth)

/-- Reads what a rule does. -/
def readAction : Reading Stmt := do
  inBraces (stmtWithin (← bound))

/-! ### Programs -/

/-- Reads the parameters of a function. -/
def readParams : Nat → Reading (List String)
  | 0 => unexpected
  | steps + 1 => do
    match (← peek).token with
    | .name name =>
      advance
      if ← takeSign "," then
        skipLines
        return name :: (← readParams steps)
      else return [name]
    | _ => unexpected

/-- Reads a function after its first word. -/
def readFunction : Reading Function := do
  let l ← peek
  match l.token with
  | .name name | .call name =>
    advance
    let params ← inParens do
      if ← atSign ")" then return [] else readParams (← bound)
    skipLines
    if let some param := params.find? fun p => 1 < (params.filter (· = p)).length then
      failAt l.line (param ++ " is duplicated in argument list")
    modify fun r => { r with inFunction := true, params }
    let body ← readAction
    let isGlobal (key : String) : Bool := !key.startsWith "("
    modify fun r => { r with
      inFunction := false, params := []
      arrays := r.arrays.filter isGlobal, scalars := r.scalars.filter isGlobal }
    return ⟨name, params, body⟩
  | _ => unexpected

/-- Reads a rule. -/
def readRule : Reading Rule := do
  match (← peek).token with
  | .word "BEGIN" =>
    advance
    return ⟨.start, some (← readAction)⟩
  | .word "END" =>
    advance
    return ⟨.finish, some (← readAction)⟩
  | _ =>
    modify fun r => { r with inRule := true }
    let guard ← if ← atSign "\x7b" then pure Guard.always
      else do
        let a ← expression
        if ← takeSign "," then
          skipLines
          pure (.range a (← expression))
        else pure (.when_ a)
    let action? ← if ← atSign "\x7b" then pure (some (← readAction))
      else pure none
    modify fun r => { r with inRule := false }
    return ⟨guard, action?⟩

/-- Reads rules and functions. -/
def readScript : Nat → Script → Reading Script
  | 0, s => return s
  | steps + 1, s => do
    skipEnds
    match (← peek).token with
    | .finish => return s
    | .word "function" =>
      advance
      let line := (← peek).line
      let f ← readFunction
      if s.functions.any (·.name = f.name) then failAt line ("redefinition of " ++ f.name)
      readScript steps { s with functions := s.functions ++ [f] }
    | _ =>
      let rule ← readRule
      match (← peek).token with
      | .newline | .sign ";" | .finish => pure ()
      | _ => if rule.action?.isNone then unexpected
      readScript steps { s with rules := s.rules ++ [rule] }

end Reading

/-- Reads a program; gives all that is wrong if it is none. -/
def Script.read (text : String) : Except (List Flaw) Script :=
  match Lexeme.ofText text with
  | .error e => .error [e]
  | .ok (lexemes, complaints) =>
    let lines := (text.toList.filter (· = '\n')).length
    match Reading.readScript (lexemes.length + 1) {} |>.run { rest := lexemes, lastLine := lines + 1 } with
    | .error e _ => .error (complaints ++ [e])
    | .ok s r =>
      if s.rules.isEmpty && s.functions.isEmpty then
        .error (complaints ++ [.atLine r.lastLine "syntax error at or near end of line"])
      else if !complaints.isEmpty then .error complaints
      else
        let paramsOf (name : String) : Option (List String) :=
          (s.functions.find? (·.name = name)).map (·.params)
        let calls := r.called.reverse
        match calls.find? fun c => (paramsOf c.1).isNone with
        | some (name, _) =>
          .error [.atLine (r.lastLine + 1) ("function " ++ name ++ " never defined")]
        | none =>
          match calls.find? fun c => ((paramsOf c.1).any fun ps => decide (ps.length < c.2.1)) with
          | some (name, _, line) =>
            .error [.atLine line ("too many arguments in call to " ++ name)]
          | none => .ok s

end LuaBundler.Utility.Records
