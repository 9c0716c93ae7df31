import LuaBundler.Shell.Reader

/-!
# Words and tokens

A word is read through levels: quotation, the braces of a parameter and the parentheses of an
expression each have rules of their own for what ends them and what a character means. What nested
commands look like is a parameter (`nested`), so that this module knows nothing of grammar.
-/

namespace LuaBundler.Shell

/-! ### Levels -/

/-- What rules hold for a character. -/
inductive Mode where
  | base
  | double
  | single
  | arithmetic
  deriving DecidableEq

/-- What a character means. -/
inductive Meaning where
  | plain
  | newline
  | backslash
  | singleQuote
  | doubleQuote
  | endQuote
  | backquote
  | dollar
  | closeBrace
  | openParen
  | closeParen
  | separator

/-- What a character means under the rules of a mode. -/
def Mode.meaning (m : Mode) (c : Char) : Meaning :=
  if c = '\n' then .newline
  else if m = .single then if c = '\'' then .endQuote else .plain
  else if c = '\\' then .backslash
  else if c = '`' then .backquote
  else if c = '$' then .dollar
  else if c = '}' then .closeBrace
  else match m with
    | .base =>
      if c = '\'' then .singleQuote
      else if c = '"' then .doubleQuote
      else if "<>();&| \t".toList.contains c then .separator
      else .plain
    | .double => if c = '"' then .endQuote else .plain
    | _ => if c = '(' then .openParen else if c = ')' then .closeParen else .plain

/-- A level of a word. -/
structure Level where
  mode : Mode
  /-- Whether the level is quoted by quotation marks around it. -/
  isDouble : Bool := false
  /-- Whether a quotation mark has been met inside the braces of a parameter. -/
  innerDouble : Bool := false
  /-- Whether braces opened the level. -/
  ofBraces : Bool := false
  /-- How many braces are open, and how many of them in quotation marks. -/
  braces : Nat := 0
  quotedBraces : Nat := 0
  parens : Nat := 0

/-- What the pieces that are being read will make up. -/
inductive Frame where
  | word
  | parameter (name : String) (form : Form) (strict : Bool)
  | arithmetic

/-- A word that is being read: the pieces so far, the last one first, and the levels and pieces
around them. -/
structure Scan where
  level : Level
  below : List Level := []
  pieces : List Piece := []
  opening : Frame := .word
  around : List (Frame × List Piece) := []
  hasQuotes : Bool := false
  /-- The document that the word is the text of. -/
  document? : Option PendingDocument := none

namespace Scan

/-- Whether characters are quoted. -/
def isQuoted (s : Scan) : Bool :=
  s.level.mode = .single || s.level.isDouble

/-- Adds a piece. -/
def add (s : Scan) (p : Piece) : Scan :=
  { s with pieces := p :: s.pieces }

/-- Adds a character. -/
def addChar (s : Scan) (c : Char) : Scan :=
  s.add (.char c s.isQuoted)

/-- Adds a quotation mark, which a document has none of. -/
def addMark (s : Scan) : Scan :=
  if s.document?.isSome then s else s.add .mark

/-- The scan with its level changed. -/
def mapLevel (s : Scan) (f : Level → Level) : Scan :=
  { s with level := f s.level }

/-- Opens a level. -/
def push (s : Scan) (l : Level) : Scan :=
  { s with level := l, below := s.level :: s.below }

/-- Closes a level. -/
def pop (s : Scan) : Scan :=
  match s.below with
  | l :: below => { s with level := l, below }
  | [] => s

/-- Opens a piece that has a word in it. -/
def openPiece (s : Scan) (o : Frame) : Scan :=
  { s with around := (s.opening, s.pieces) :: s.around, opening := o, pieces := [] }

/-- Closes a piece that has a word in it. -/
def closePiece (s : Scan) : Scan :=
  match s.around with
  | [] => s
  | (opening, pieces) :: around =>
    let inner := s.pieces.reverse
    let piece := match s.opening with
      | .parameter name form strict => .parameter name form strict inner
      | _ => .arithmetic inner
    { s with opening, pieces := piece :: pieces, around }

/-- A quotation mark that may stand inside braces. -/
def toggle (s : Scan) : Scan :=
  (if 0 < s.level.braces then
    s.mapLevel fun l => { l with innerDouble := !l.innerDouble } else s).addMark

/-- A quotation mark that ends a quotation. -/
def endQuote (s : Scan) (c : Char) : Scan :=
  if s.document?.isSome ∧ s.level.braces = 0 then s.addChar c
  else
    let s := if s.level.quotedBraces = 0 then
      s.mapLevel fun l => { l with mode := .base, isDouble := false } else s
    let s := { s with hasQuotes := true }
    if c = '"' then s.toggle else s.addMark

/-- A brace that may close a parameter. -/
def closeBrace (s : Scan) : Scan :=
  if s.level.innerDouble ∨ s.level.braces = 0 then s.addChar '}'
  else
    let s := s.mapLevel fun l => { l with braces := l.braces - 1 }
    let s :=
      if s.level.braces = 0 ∧ s.level.ofBraces then s.pop
      else s.mapLevel fun l => { l with quotedBraces := l.quotedBraces - 1 }
    s.closePiece

/-- What a backslash does to the character after it. -/
def escape (s : Scan) (c : Char) : Scan :=
  let keeps := s.level.isDouble && c != '\\' && c != '`' && c != '$' &&
    (c != '"' || (s.document?.isSome && s.level.braces = 0)) &&
    (c != '}' || s.level.braces = 0)
  let s := if keeps then s.add (.char '\\' true) else s
  { s.add (.char c true) with hasQuotes := true }

/-- What makes a word impossible when the script ends in it. -/
def defect? (s : Scan) : Option String :=
  if s.level.mode = .arithmetic then some "Missing '))'"
  else if s.level.mode ≠ .base ∧ s.document?.isNone then some "Unterminated quoted string"
  else if s.level.braces ≠ 0 then some "Missing '\x7d'"
  else none

end Scan

namespace Reading

/-- The next character at a level. -/
def nextAt (s : Scan) : Reading (Option Char) :=
  if s.level.mode = .single then next else nextJoined

/-! ### The end of a document -/

/-- Reads tabs that are stripped. -/
def skipTabs : Nat → Option Char → Reading (Option Char)
  | 0, c => return c
  | steps + 1, c => do
    if c = some '\t' then skipTabs steps (← next) else return c

/-- Reads the mark of a document. -/
def readMark : List Char → Option Char → Reading (Bool × Option Char)
  | [], c => return (c = some '\n' || c = none, c)
  | m :: mark, c => do
    if c = some m then readMark mark (← next) else return (false, c)

/-- Looks for the mark of a document at the start of a line; at the mark, the document ends. -/
def documentStart (s : Scan) (c : Option Char) : Reading (Option Char) := do
  match s.document? with
  | none => return c
  | some d =>
    let c ← if d.stripsTabs then skipTabs maxJoins c else pure c
    let before ← get
    match ← readMark d.mark c with
    | (true, _) =>
      countLine
      return none
    | (false, _) =>
      set before
      return c

/-! ### Parameters -/

/-- Reads the rest of a name. -/
def readName (allowed : Char → Bool) : Nat → List Char → Option Char →
    Reading (List Char × Option Char)
  | 0, name, c => return (name.reverse, c)
  | steps + 1, name, c => do
    match c with
    | none => return (name.reverse, c)
    | some d =>
      if allowed d then readName allowed steps (d :: name) (← nextJoined)
      else return (name.reverse, c)

/-- The name of a parameter in braces, whether its length is meant, whether the name is good, and
what follows it. -/
structure ParameterHead where
  name : List Char
  isLength : Bool
  isGood : Bool
  follow : Option Char

/-- Reads the name of a parameter that starts with a character. -/
def readHead (inBraces isLength : Bool) (c : Option Char) : Reading ParameterHead := do
  match c with
  | some d =>
    if startsName d then
      let (name, c) ← readName continuesName maxJoins [] c
      return ⟨name, isLength, true, c⟩
    else if d.isDigit then
      let (name, c) ← readName Char.isDigit (if inBraces then maxJoins else 1) [] c
      return ⟨name, isLength, true, c⟩
    else if d = '}' then return ⟨[], isLength, false, c⟩
    else
      let follow ← nextJoined
      return ⟨[d], isLength, isSpecial d, follow⟩
  | none => return ⟨[], isLength, false, c⟩

/-- Whether a length is meant by a number sign before a character. -/
def meansLength : Option Char → Bool
  | some c => continuesName c
  | none => false

/-- Reads the name of a parameter in braces. A number sign before it means its length. -/
def readBraceHead (c : Option Char) : Reading ParameterHead := do
  if c = some '#' then
    let first ← nextJoined
    if meansLength first then readHead true true first
    else
      let second ← nextJoined
      if first = some '}' ∨ second ≠ some '}' then
        unread second
        return ⟨['#'], false, true, first⟩
      else match first with
        | some d => return ⟨[d], true, isSpecial d, second⟩
        | none => return ⟨[], true, false, second⟩
  else readHead true false c

/-- Reads how a parameter in braces is expanded, after its name. -/
def readForm (h : ParameterHead) : Reading (Form × Bool × Bool) := do
  let bad : Reading (Form × Bool × Bool) := do
    unread h.follow
    return (.bad, false, false)
  if !h.isGood then bad
  else if h.isLength then
    if h.follow = some '}' then
      unread h.follow
      return (.length, false, false)
    else bad
  else
    let (strict, c) ← if h.follow = some ':' then pure (true, ← nextJoined)
      else pure (false, h.follow)
    match c with
    | some '}' => return (.plain, strict, false)
    | some '-' => return (.otherwise, strict, false)
    | some '+' => return (.instead, strict, false)
    | some '?' => return (.demand, strict, false)
    | some '=' => return (.assign, strict, false)
    | some '#' =>
      if strict then return (.bad, strict, false) else return (.dropStart (← accept '#'), false, true)
    | some '%' =>
      if strict then return (.bad, strict, false) else return (.dropEnd (← accept '%'), false, true)
    | _ => return (.bad, strict, false)

/-- Enters the braces of a parameter. -/
def enterBraces (s : Scan) (isPattern : Bool) : Scan :=
  let mode := if isPattern then .base else s.level.mode
  let mode := if mode = .arithmetic then .double else mode
  let s := if mode ≠ s.level.mode ∨ s.level.innerDouble then
    s.push { mode, isDouble := mode ≠ .base, ofBraces := true } else s
  s.mapLevel fun l => { l with
    braces := l.braces + 1
    quotedBraces := if l.isDouble then l.quotedBraces + 1 else l.quotedBraces }

/-- Reads a parameter in braces. -/
def readBraces (s : Scan) : Reading Scan := do
  let h ← readBraceHead (← nextJoined)
  let (form, strict, isPattern) ← readForm h
  let name := String.ofList h.name
  if form = .plain then
    return s.add (.parameter name .plain strict [])
  else
    return (enterBraces s isPattern).openPiece (.parameter name form strict)

/-! ### Nested commands -/

/-- Reads the text between backquotes. -/
def readBackquoted (isDouble : Bool) : Nat → List Char → Reading (List Char)
  | 0, text => return text.reverse
  | steps + 1, text => do
    match ← nextJoined with
    | none => complain "EOF in backquote substitution"
    | some '`' => return text.reverse
    | some '\\' =>
      match ← next with
      | some c =>
        if c = '\\' ∨ c = '`' ∨ c = '$' ∨ (isDouble ∧ c = '"') then
          readBackquoted isDouble steps (c :: text)
        else readBackquoted isDouble steps (c :: '\\' :: text)
      | none => readBackquoted isDouble steps ('\\' :: text)
    | some '\n' =>
      countLine
      readBackquoted isDouble steps ('\n' :: text)
    | some c => readBackquoted isDouble steps (c :: text)

/-- Reads a nested command, with documents of its own. -/
def readNested (nested : Reading (Option Node)) (documents : Reading Unit) :
    Reading (Option Node) := do
  let pending := (← get).pending
  modify fun r => { r with pending := [] }
  let body ← nested
  documents
  modify fun r => { r with pending }
  return body

/-- Reads the command between parentheses. -/
def readParenthesized (nested : Reading (Option Node)) (closing documents : Reading Unit) :
    Reading (Option Node) :=
  readNested (do
    let body ← nested
    closing
    return body) documents

/-- Reads the command that is written in another text. -/
def readApart (text : List Char) (nested : Reading (Option Node)) (documents : Reading Unit) :
    Reading (Option Node) := do
  let r ← get
  set { r with rest := text, outer := [], mayGoOn := false, line := 1 }
  let body ← readNested nested documents
  modify fun r' => { r' with
    rest := r.rest, outer := r.outer, mayGoOn := r.mayGoOn, line := r.line, last? := r.last?
    isPushedBack := false }
  return body

/-- Reads what a dollar sign starts. -/
def readDollar (nested : Reading (Option Node)) (closing documents : Reading Unit) (s : Scan) :
    Reading Scan := do
  let c ← nextJoined
  let isMark := (← get).expects.endMark
  match c with
  | some '(' =>
    if isMark then
      unread c
      return s.addChar '$'
    else if ← accept '(' then
      return (s.push { mode := .arithmetic, isDouble := true }).openPiece .arithmetic
    else
      return s.add (.command (← readParenthesized nested closing documents))
  | some '{' =>
    if isMark then
      unread c
      return s.addChar '$'
    else readBraces s
  | _ =>
    let isParameter := match c with
      | some d => startsName d || d.isDigit || isSpecial d
      | none => false
    if isMark ∨ !isParameter then
      unread c
      return s.addChar '$'
    else
      let h ← readHead false false c
      unread h.follow
      return s.add (.parameter (String.ofList h.name) .plain false [])

/-! ### Words -/

/-- What a character does to a word; `none` if it ends the word. -/
def scanChar (nested : Reading (Option Node)) (closing documents : Reading Unit) (s : Scan)
    (c : Char) : Reading (Option Scan) := do
  match s.level.mode.meaning c with
  | .plain => return some (s.addChar c)
  | .newline =>
    if s.level.mode = .base ∧ s.level.braces = 0 then return none
    else
      countLine
      return some (s.addChar c)
  | .backslash =>
    match ← next with
    | some d => return some (s.escape d)
    | none => return some (s.add (.char '\\' true))
  | .singleQuote => return some (s.mapLevel fun l => { l with mode := .single }).addMark
  | .doubleQuote =>
    return some (s.mapLevel fun l => { l with mode := .double, isDouble := true }).toggle
  | .endQuote => return some (s.endQuote c)
  | .dollar => return some (← readDollar nested closing documents s)
  | .closeBrace => return some s.closeBrace
  | .openParen => return some ((s.mapLevel fun l => { l with parens := l.parens + 1 }).addChar c)
  | .closeParen =>
    if 0 < s.level.parens then
      return some ((s.mapLevel fun l => { l with parens := l.parens - 1 }).addChar c)
    else if ← accept ')' then return some s.pop.closePiece
    else return some (s.addChar c)
  | .backquote =>
    if (← get).expects.endMark then return some (s.addChar c)
    else
      let text ← readBackquoted s.level.isDouble maxJoins []
      return some (s.add (.command (← readApart text nested documents)))
  | .separator => if s.level.braces = 0 then return none else return some (s.addChar c)

/-- Reads a word from a character on, and gives the character that ended it. -/
def scanWord (nested : Reading (Option Node)) (closing documents : Reading Unit) :
    Nat → Scan → Option Char → Reading (Scan × Option Char)
  | 0, s, c => return (s, c)
  | steps + 1, s, c => do
    match c with
    | none => return (s, none)
    | some d =>
      match ← scanChar nested closing documents s d with
      | none => return (s, c)
      | some s =>
        let c ← nextAt s
        let c ← if d = '\n' then documentStart s c else pure c
        scanWord nested closing documents steps s c

/-- Reads a word from a character on, and gives the character that ended it. A word that the end of
the script cuts off is an error. -/
def readWord (nested : Reading (Option Node)) (closing documents : Reading Unit) (start : Scan)
    (c : Option Char) : Reading (Scan × Option Char) := do
  let c ← documentStart start c
  let (s, c) ← scanWord nested closing documents maxJoins start c
  match s.defect? with
  | some reason => complain reason
  | none => return (s, c)

/-- Reads the operator of a redirection, whose first character has been read. -/
def readRedirect (number? : Option Nat) (first : Char) : Reading PendingRedirect := do
  if first = '>' then
    let number := number?.getD 1
    if ← accept '>' then return .open number .append
    else if ← accept '|' then return .open number .overwrite
    else if ← accept '&' then return .copy number false
    else return .open number .write
  else
    let number := number?.getD 0
    if ← accept '<' then return .document number (← accept '-')
    else if ← accept '&' then return .copy number true
    else if ← accept '>' then return .open number .readWrite
    else return .open number .read

/-- The number that a redirection may have before it. -/
def redirectNumber? (s : Scan) : Option (Option Nat) :=
  match s.pieces with
  | [] => some none
  | [.char c false] => if c.isDigit then some (some (c.toNat - 48)) else none
  | _ => none

/-- Reads a word or a redirection from a character on. -/
def readWordToken (nested : Reading (Option Node)) (closing documents : Reading Unit)
    (c : Option Char) : Reading Token := do
  let (s, c) ← readWord nested closing documents { level := { mode := .base } } c
  match c, redirectNumber? s with
  | some d, some number? =>
    if (d = '<' ∨ d = '>') ∧ !s.hasQuotes then
      let redirect ← readRedirect number? d
      modify fun r => { r with redirect, token := .redirect }
      return .redirect
    else finish s c
  | _, _ => finish s c
where
  /-- Ends a word. -/
  finish (s : Scan) (c : Option Char) : Reading Token := do
    unread c
    modify fun r => { r with
      word := s.pieces.reverse, hasQuotes := s.hasQuotes, token := .word }
    return .word

/-- Reads over a comment. -/
def skipComment : Nat → Reading Unit
  | 0 => return
  | steps + 1 => do
    match ← next with
    | none => return
    | some '\n' => unread (some '\n')
    | some _ => skipComment steps

/-- Reads a token of a script. -/
def readRaw (nested : Reading (Option Node)) (closing documents : Reading Unit) :
    Nat → Reading Token
  | 0 => return .eof
  | steps + 1 => do
    let give (t : Token) : Reading Token := do
      modify fun r => { r with token := t }
      return t
    match ← nextJoined with
    | none => give .eof
    | some ' ' | some '\t' => readRaw nested closing documents steps
    | some '#' =>
      skipComment maxJoins
      readRaw nested closing documents steps
    | some '\n' =>
      countLine
      give .newline
    | some '&' => give (if ← accept '&' then .and else .ampersand)
    | some '|' => give (if ← accept '|' then .or else .pipe)
    | some ';' => give (if ← accept ';' then .endArm else .semicolon)
    | some '(' => give .openParen
    | some ')' => give .closeParen
    | c => readWordToken nested closing documents c

/-- Reads the documents that were met on a line. -/
def readDocuments (nested : Reading (Option Node)) (closing : Reading Unit) : Nat → Reading Unit
  | 0 => return
  | steps + 1 => do
    match (← get).pending with
    | [] => return
    | d :: pending =>
      modify fun r => { r with pending }
      let level : Level := if d.isLiteral then { mode := .single }
        else { mode := .double, isDouble := true }
      let start : Scan := { level, document? := some d }
      let c ← nextAt start
      let (s, _) ← readWord nested closing (readDocuments nested closing steps) start c
      modify fun r => { r with documents := (d.number, s.pieces.reverse) :: r.documents }
      readDocuments nested closing steps

end Reading

end LuaBundler.Shell
