import LuaBundler.Shell.Lexer

/-!
# The grammar of scripts

Commands are read one line at a time: what a line says is done before the next line is read.

The grammar is written as rules for its parts (`Part`), each given the rules of what is nested in
it. `readPart` ties them together, with a number that bounds how deeply parts are nested; the number
comes from the length of the script, which bounds it too.
-/

namespace LuaBundler.Shell

/-- What kind of list of commands is read. -/
inductive ListKind where
  /-- Up to the end of a line. -/
  | line
  /-- At least one command, over several lines. -/
  | body
  /-- Any number of commands, over several lines. -/
  | optional
  deriving DecidableEq

/-- A part of the grammar that other parts hold. -/
inductive Part where
  | list (kind : ListKind)
  | closing
  | documents

/-- Reading a part; only a list gives a command. -/
abbrev Rules := Part → Reading (Option Node)

/-- The commands that a function cannot have the name of. Their failures end scripts, and their
assignments last. -/
def specialNames : List String := [":", ".", "break", "continue", "eval", "exec", "exit", "export",
  "local", "readonly", "return", "set", "shift", "times", "trap", "unset"]

namespace Reading

/-! ### Tokens -/

/-- Sets what the next token may be. -/
def expect (e : Expectation) : Reading Unit :=
  modify fun r => { r with expects := e }

/-- Before a command. -/
def commandStart : Expectation := { newlines := true, keywords := true, aliases := true }

/-- Gives the last token back. -/
def pushBack : Reading Unit :=
  modify fun r => { r with isPushedBack := true }

/-- The last token that was given back, or another one. -/
def readAny (rules : Rules) : Reading Token := do
  let r ← get
  if r.isPushedBack then
    set { r with isPushedBack := false }
    return r.token
  else
    readRaw (rules (.list .optional)) (discard (rules .closing)) (discard (rules .documents))
      maxJoins

/-- Reads over line ends. -/
def skipNewlines (rules : Rules) : Nat → Token → Reading Token
  | 0, t => return t
  | steps + 1, t => do
    if t = .newline then
      discard (rules .documents)
      expect {}
      skipNewlines rules steps (← readAny rules)
    else return t

/-- Reads the text of an alias next. -/
def pushAlias (name text : String) : Reading Unit :=
  modify fun r => { r with rest := text.toList, outer := (r.rest, name) :: r.outer }

/-- The text of an alias that may be read now. -/
def aliasText? (r : Reader) (name : String) : Option String :=
  if r.outer.any (·.2 == name) then none else r.aliases.lookup name

/-- Reads a token, which is a keyword or an alias if that is expected. -/
def readTokenWithin (rules : Rules) : Nat → Expectation → Reading Token
  | 0, _ => return .eof
  | steps + 1, e => do
    let t ← readAny rules
    let t ← if e.newlines then skipNewlines rules maxJoins t else pure t
    let r ← get
    let e : Expectation := { e with
      keywords := e.keywords || r.expects.keywords
      aliases := e.aliases || r.expects.aliases }
    expect {}
    if t ≠ .word ∨ r.hasQuotes ∨ !r.word.isBare then return t
    else
      let text := String.ofList r.word.bare
      match (if e.keywords then keywords.lookup text else none) with
      | some k =>
        modify fun r => { r with token := .keyword k }
        return .keyword k
      | none =>
        match (if e.aliases then aliasText? r text else none) with
        | some value =>
          if value ≠ "" then pushAlias text value
          readTokenWithin rules steps e
        | none => return t

/-- Reads a token, which is a keyword or an alias if that is expected. -/
def readToken (rules : Rules) : Reading Token := do
  readTokenWithin rules maxJoins (← get).expects

/-- Reads a token that has to be the expected one. -/
def require (rules : Rules) (t : Token) : Reading Unit := do
  if (← readToken rules) ≠ t then unexpected (some t)

/-! ### Redirections -/

/-- Reads the word of a redirection. -/
def readRedirectWord (rules : Rules) : Reading Redirect := do
  let redirect := (← get).redirect
  match redirect with
  | .document .. => expect { endMark := true }
  | _ => pure ()
  if (← readToken rules) ≠ .word then unexpected none
  let r ← get
  match redirect with
  | .open number access => return .open number access r.word
  | .copy number isInput => return .copy number isInput r.word
  | .document number stripsTabs =>
    let document : PendingDocument := ⟨r.met, r.word.literal, stripsTabs, r.hasQuotes⟩
    set { r with met := r.met + 1, pending := r.pending ++ [document] }
    return .document number r.hasQuotes ((r.known.lookup document.number).getD [])

/-- Reads redirections that follow a command. -/
def readRedirects (rules : Rules) : Nat → List Redirect → Reading (List Redirect)
  | 0, rs => return rs.reverse
  | steps + 1, rs => do
    if (← readToken rules) = .redirect then
      readRedirects rules steps ((← readRedirectWord rules) :: rs)
    else
      pushBack
      return rs.reverse

/-! ### Simple commands -/

/-- What has been read of a simple command, the last parts first. -/
structure Simple where
  assignments : List Word := []
  words : List Word := []
  redirects : List Redirect := []

/-- Reads the rest of a function, whose name has been read. -/
def readFunction (rules : Rules) (command : Reading Node) (name : Word) : Reading Node := do
  require rules .closeParen
  let text := String.ofList name.bare
  if !(name.isBare && isName name.bare) || specialNames.contains text then
    complain "Bad function name"
  expect commandStart
  let line := (← get).line
  return .define line text (← command)

/-- Reads a simple command. -/
def readSimple (rules : Rules) (command : Reading Node) (line : Nat) :
    Nat → Bool → Simple → Reading Node
  | 0, _, _ => complain "too long"
  | steps + 1, atStart, s => do
    expect { aliases := atStart }
    match ← readToken rules with
    | .word =>
      let w := (← get).word
      if atStart && w.isAssignment then
        readSimple rules command line steps true { s with assignments := w :: s.assignments }
      else readSimple rules command line steps false { s with words := w :: s.words }
    | .redirect =>
      let r ← readRedirectWord rules
      readSimple rules command line steps atStart { s with redirects := r :: s.redirects }
    | .openParen =>
      match s with
      | ⟨[], [name], []⟩ => readFunction rules command name
      | _ => finish s
    | _ => finish s
where
  /-- Ends a simple command. -/
  finish (s : Simple) : Reading Node := do
    pushBack
    return .simple line s.assignments.reverse s.words.reverse s.redirects.reverse

/-! ### Compound commands -/

/-- Reads a list that has a command. It is empty only where the script ends before the token that
should close it. -/
def readBody (rules : Rules) (closing : Token) : Reading Node := do
  match ← rules (.list .body) with
  | some n => return n
  | none =>
    require rules closing
    unexpected none

/-- The arms of a choice and what comes without one. -/
def readElse (rules : Rules) : Nat → Reading (Option Node)
  | 0 => return none
  | steps + 1 => do
    match ← readToken rules with
    | .keyword .elifWord =>
      let test ← readBody rules (.keyword .thenWord)
      require rules (.keyword .thenWord)
      let body ← readBody rules (.keyword .fiWord)
      return some (.choice test body (← readElse rules steps))
    | .keyword .elseWord => return some (← readBody rules (.keyword .fiWord))
    | _ =>
      pushBack
      return none

/-- Reads words up to something else. -/
def readWords (rules : Rules) : Nat → List Word → Reading (List Word × Token)
  | 0, ws => return (ws.reverse, .eof)
  | steps + 1, ws => do
    match ← readToken rules with
    | .word => readWords rules steps ((← get).word :: ws)
    | t => return (ws.reverse, t)

/-- The word that stands for all arguments. -/
def allArguments : Word := [.mark, .parameter "@" .plain false [], .mark]

/-- Reads a loop over words. -/
def readEach (rules : Rules) (line : Nat) : Reading Node := do
  let t ← readToken rules
  let r ← get
  if t ≠ .word ∨ r.hasQuotes ∨ !r.word.isBare ∨ !isName r.word.bare then
    complain "Bad for loop variable"
  let name := String.ofList r.word.bare
  expect commandStart
  let words ← do
    let t ← readToken rules
    if t = .keyword .inWord then
      let (words, last) ← readWords rules maxJoins []
      if last ≠ .newline ∧ last ≠ .semicolon then unexpected none
      pure words
    else
      if t ≠ .semicolon then pushBack
      pure [allArguments]
  expect commandStart
  require rules (.keyword .doWord)
  return .each line name words (← readBody rules (.keyword .doneWord))

/-- Reads the patterns of an arm. -/
def readPatterns (rules : Rules) : Nat → List Word → Reading (List Word)
  | 0, ws => return ws.reverse
  | steps + 1, ws => do
    let ws := (← get).word :: ws
    if (← readToken rules) = .pipe then
      discard (readToken rules)
      readPatterns rules steps ws
    else
      let r ← get
      if r.token ≠ .closeParen then unexpected (some .closeParen)
      return ws.reverse

/-- Reads the arms of a case. -/
def readArms (rules : Rules) :
    Nat → List (List Word × Option Node) → Reading (List (List Word × Option Node))
  | 0, arms => return arms.reverse
  | steps + 1, arms => do
    expect { newlines := true, keywords := true }
    let t ← readToken rules
    if t = .keyword .esacWord then return arms.reverse
    else
      if t = .openParen then discard (readToken rules)
      let patterns ← readPatterns rules maxJoins []
      let body ← rules (.list .optional)
      let arms := (patterns, body) :: arms
      expect { newlines := true, keywords := true }
      match ← readToken rules with
      | .keyword .esacWord => return arms.reverse
      | .endArm => readArms rules steps arms
      | _ => unexpected (some .endArm)

/-- Reads a case. -/
def readCases (rules : Rules) (line : Nat) : Reading Node := do
  require rules .word
  let subject := (← get).word
  expect commandStart
  require rules (.keyword .inWord)
  return .cases line subject (← readArms rules maxJoins [])

/-- Reads what ends a compound command and the redirections after it. -/
def readTail (rules : Rules) (line : Nat) (n : Node) : Reading Node := do
  expect { keywords := true, aliases := true }
  let rs ← readRedirects rules maxJoins []
  match rs, n with
  | [], n => return n
  | rs, .subshell line body _ => return .subshell line body rs
  | rs, n => return .redirected line n rs

/-- Reads a command. -/
def readCommand (rules : Rules) : Nat → Reading Node
  | 0 => complain "too long"
  | steps + 1 => do
    let line := (← get).line
    match ← readToken rules with
    | .keyword .ifWord =>
      let test ← readBody rules (.keyword .thenWord)
      require rules (.keyword .thenWord)
      let body ← readBody rules (.keyword .fiWord)
      let otherwise ← readElse rules maxJoins
      require rules (.keyword .fiWord)
      readTail rules line (.choice test body otherwise)
    | .keyword .whileWord => readLoop line false
    | .keyword .untilWord => readLoop line true
    | .keyword .forWord =>
      let n ← readEach rules line
      require rules (.keyword .doneWord)
      readTail rules line n
    | .keyword .caseWord =>
      readTail rules line (← readCases rules line)
    | .openParen =>
      let body ← readBody rules .closeParen
      require rules .closeParen
      readTail rules line (.subshell line body [])
    | .keyword .openBrace =>
      let body ← readBody rules (.keyword .closeBrace)
      require rules (.keyword .closeBrace)
      readTail rules line body
    | .word | .redirect =>
      pushBack
      readSimple rules (readCommand rules steps) line maxJoins true {}
    | _ => unexpected none
where
  /-- Reads a loop with a test. -/
  readLoop (line : Nat) (untilTrue : Bool) : Reading Node := do
    let test ← readBody rules (.keyword .doWord)
    require rules (.keyword .doWord)
    let body ← readBody rules (.keyword .doneWord)
    require rules (.keyword .doneWord)
    readTail rules line (.loop untilTrue test body)

/-! ### Lists -/

/-- Reads the further commands of a pipeline. -/
def readPipes (rules : Rules) (nesting : Nat) : Nat → List Node → Reading (List Node)
  | 0, ns => return ns.reverse
  | steps + 1, ns => do
    if (← readToken rules) = .pipe then
      expect commandStart
      readPipes rules nesting steps ((← readCommand rules nesting) :: ns)
    else
      pushBack
      return ns.reverse

/-- Reads a pipeline. -/
def readPipeline (rules : Rules) (nesting : Nat) : Reading Node := do
  let negated ← do
    if (← readToken rules) = .keyword .bang then
      expect { keywords := true, aliases := true }
      pure true
    else
      pushBack
      pure false
  let n ← readCommand rules nesting
  let n ← match ← readPipes rules nesting maxJoins [n] with
    | [n] => pure n
    | ns => pure (.pipeline ns false)
  return if negated then .negate n else n

/-- Reads pipelines that depend on each other. -/
def readChain (rules : Rules) (nesting : Nat) : Nat → Node → Reading Node
  | 0, n => return n
  | steps + 1, n => do
    match ← readToken rules with
    | .and =>
      expect commandStart
      readChain rules nesting steps (.both n (← readPipeline rules nesting))
    | .or =>
      expect commandStart
      readChain rules nesting steps (.either n (← readPipeline rules nesting))
    | _ =>
      pushBack
      return n

/-- A command that runs in the background. -/
def inBackground : Node → Node
  | .pipeline commands _ => .pipeline commands true
  | .redirected line body redirects => .background line body redirects
  | n => .background 0 n []

/-- A command after those before it. -/
def after (before : Option Node) (n : Node) : Node :=
  match before with
  | some m => .sequence m n
  | none => n

/-- Reads a list of commands. -/
def readListWithin (rules : Rules) (nesting : Nat) (kind : ListKind) :
    Nat → Option Node → Reading (Option Node)
  | 0, before => return before
  | steps + 1, before => do
    let isLine := kind = .line
    expect { commandStart with newlines := !isLine }
    let t ← readToken rules
    if t = .newline then
      discard (rules .documents)
      return before
    else if t = .eof then
      discard (rules .documents)
      pushBack
      modify fun r => { r with token := .eof }
      return before
    else
      pushBack
      if (kind = .optional ∨ (kind = .body ∧ before.isSome)) ∧ t.endsList then return before
      else
        let n ← readPipeline rules nesting
        let n ← readChain rules nesting maxJoins n
        let t ← readToken rules
        let n := after before (if t = .ampersand then inBackground n else n)
        match t with
        | .eof =>
          discard (rules .documents)
          pushBack
          modify fun r => { r with token := .eof }
          return some n
        | .newline =>
          pushBack
          readListWithin rules nesting kind steps (some n)
        | .ampersand | .semicolon => readListWithin rules nesting kind steps (some n)
        | _ =>
          if isLine then unexpected none
          else
            pushBack
            return some n

/-- Reads a part of the grammar, in which parts are nested so many times at most. -/
def readPart : Nat → Rules
  | 0, _ => throw .incomplete
  | nesting + 1, part =>
    let rules := readPart nesting
    match part with
    | .list kind => readListWithin rules nesting kind maxJoins none
    | .closing => do
      require rules .closeParen
      return none
    | .documents => do
      readDocuments (rules (.list .optional)) (discard (rules .closing)) maxJoins
      return none

end Reading

/-! ### Scripts -/

/-- What the next line of a script says. -/
inductive Line where
  | command (n : Option Node)
  | eof

/-- Reads a line once. -/
def Reader.readOnce (r : Reader) : EStateM.Result ReadError Reader Line :=
  let start := { r with
    isPushedBack := false, pending := [], expects := {}, met := 0, documents := [] }
  let body : Reading Line := do
    let n ← Reading.readPart (16 * r.rest.length + 64) (.list .line)
    if n.isNone ∧ (← get).token = .eof then return .eof else return .command n
  body.run start

/-- Reads the commands of the next line, which may go on over several lines. A line with
here-documents is read twice: once to find them, and once with them known. -/
def Reader.readLine (r : Reader) : Except ReadError (Line × Reader) :=
  match r.readOnce with
  | .error e _ => .error e
  | .ok line r' =>
    if r'.documents = [] then .ok (line, r')
    else match ({ r with known := r'.documents } : Reader).readOnce with
      | .error e _ => .error e
      | .ok line r' => .ok (line, { r' with known := [] })

/-- The word that a text is when it is read like a document, if it can be read. -/
def documentWord? (text : String) : Option Word :=
  let rules := Reading.readPart (16 * text.length + 64)
  let start : Scan := {
    level := { mode := .double, isDouble := true }
    document? := some ⟨0, ['\x00'], false, false⟩ }
  let body : Reading Word := do
    let c ← Reading.nextAt start
    let (s, _) ← Reading.readWord (rules (.list .optional)) (discard (rules .closing)) (pure ()) start c
    return s.pieces.reverse
  match body.run { rest := text.toList, mayGoOn := false, line := 1 } with
  | .ok w _ => some w
  | .error _ _ => none

end LuaBundler.Shell
