import LuaBundler.Utility.Regex.Basic

/-!
# Reading regular expressions

A regular expression is written in one of two dialects: the basic one, in which most operators have
a backslash, and the extended one. What an operator means where it has nothing to work on depends on
whether the reader is tolerant.

A pattern is cut into tokens, of which some depend on what stands around them. Rules for parts of
the grammar are given the rule for what is in parentheses; `readWithin` ties them together.
-/

namespace LuaBundler.Utility.Regex

/-- How a pattern is written. -/
structure Dialect where
  isExtended : Bool
  /-- Whether operators that have nothing to work on are let pass. -/
  isTolerant : Bool
  ignoresCase : Bool := false

/-- What is wrong with a pattern. -/
inductive Flaw where
  | badPattern
  | badCollation
  | badClass
  | trailingBackslash
  | badReference
  | openBracket
  | openParen
  | openBrace
  | badCount
  | badRange
  | nothingToRepeat
  | tooBig
  | closeParen
  /-- A class that lacks its outer brackets. -/
  | bareClass
  deriving DecidableEq

/-- What is said about a flaw. -/
def Flaw.message : Flaw → String
  | badPattern => "Invalid regular expression"
  | badCollation => "Invalid collation character"
  | badClass => "Invalid character class name"
  | trailingBackslash => "Trailing backslash"
  | badReference => "Invalid back reference"
  | openBracket => "Unmatched [, [^, [:, [., or [="
  | openParen => "Unmatched ( or \\("
  | openBrace => "Unmatched \\\x7b"
  | badCount => "Invalid content of \\\x7b\\\x7d"
  | badRange => "Invalid range end"
  | nothingToRepeat => "Invalid preceding regular expression"
  | tooBig => "Regular expression too big"
  | closeParen => "Unmatched ) or \\)"
  | bareClass => "character class syntax is [[:space:]], not [:space:]"

/-! ### Tokens -/

/-- A token. -/
inductive Token where
  | char (c : Char)
  | any
  | group
  | endGroup
  | alternative
  | star
  | plus
  | question
  | count
  | endCount
  | bracket
  | again (n : Nat)
  | place (p : Place)
  | octets (s : Octets)
  | backslash
  | eof

/-- The token of a character after a backslash. -/
def escapedToken (d : Dialect) (c : Char) : Token :=
  let basic (t : Token) : Token := if d.isExtended then .char c else t
  match c with
  | '|' => basic .alternative
  | '(' => basic .group
  | ')' => basic .endGroup
  | '+' => basic .plus
  | '?' => basic .question
  | '\x7b' => basic .count
  | '\x7d' => basic .endCount
  | '<' => .place .wordStart
  | '>' => .place .wordEnd
  | 'b' => .place .wordEdge
  | 'B' => .place .noWordEdge
  | 'w' => .octets (.of isWordChar)
  | 'W' => .octets (.of (!isWordChar ·))
  | 's' => .octets (.of isSpace)
  | 'S' => .octets (.of (!isSpace ·))
  | '\x60' => .place .textStart
  | '\'' => .place .textEnd
  | c => if '1' ≤ c && c ≤ '9' then .again (c.toNat - 48) else .char c
where
  /-- Whether a character is white space. -/
  isSpace (c : Char) : Bool :=
    c = ' ' || (9 ≤ c.toNat && c.toNat ≤ 13)

/-- Whether a text goes on with the end of an alternative. -/
def endsAlternative (d : Dialect) (cs : List Char) : Bool :=
  match d.isExtended, cs with
  | false, '\\' :: c :: _ => c = '|' || c = ')'
  | true, c :: _ => c = '|' || c = ')'
  | _, _ => false

/-- The first token of a text, and what follows it; `isStart` says whether an alternative starts
here. -/
def nextToken (d : Dialect) (isStart : Bool) : List Char → Token × List Char
  | [] => (.eof, [])
  | ['\\'] => (.backslash, [])
  | '\\' :: c :: cs => (escapedToken d c, cs)
  | c :: cs =>
    let extended (t : Token) : Token := if d.isExtended then t else .char c
    let t : Token := match c with
      | '.' => .any
      | '*' => .star
      | '[' => .bracket
      | '|' => extended .alternative
      | '+' => extended .plus
      | '?' => extended .question
      | '\x7b' => extended .count
      | '\x7d' => extended .endCount
      | '(' => extended .group
      | ')' => extended .endGroup
      | '^' => if d.isExtended || isStart then .place .lineStart else .char c
      | '$' =>
        if d.isExtended || cs.isEmpty || endsAlternative d cs then .place .lineEnd else .char c
      | c => .char c
    (t, cs)

/-! ### The state of a reader -/

/-- The state of a reader: the token that is looked at, what stands from it on, and what follows
it. -/
structure Reader where
  token : Token := .eof
  here : List Char := []
  rest : List Char
  groups : Nat := 0
  /-- The groups that have been closed. -/
  closed : List Nat := []
  looksBack : Bool := false
  /-- What is odd about the pattern, the last first. -/
  oddities : List String := []

/-- Reading. -/
abbrev Reading := EStateM Flaw Reader

namespace Reading

/-- Goes on to the next token. -/
def advance (d : Dialect) (isStart : Bool) : Reading Unit :=
  modify fun r =>
    let (token, rest) := nextToken d isStart r.rest
    { r with token, here := r.rest, rest }

/-- Takes note of something odd. -/
def noteOddity (text : String) : Reading Unit :=
  modify fun r => { r with oddities := text :: r.oddities }

/-! ### Brackets -/

/-- The classes of characters that have names. -/
def classes : List (String × (Char → Bool)) := [
  ("alpha", Char.isAlpha), ("digit", Char.isDigit), ("alnum", Char.isAlphanum),
  ("upper", Char.isUpper), ("lower", Char.isLower), ("space", escapedToken.isSpace),
  ("blank", fun c => c = ' ' || c = '\t'), ("punct", isPunct),
  ("print", fun c => 32 ≤ c.toNat && c.toNat < 127),
  ("graph", fun c => 32 < c.toNat && c.toNat < 127),
  ("cntrl", fun c => c.toNat < 32 || c.toNat = 127),
  ("xdigit", fun c => c.isDigit || ('a' ≤ c.toLower && c.toLower ≤ 'f'))]
where
  /-- Whether a character is printed, and is no letter, digit or space. -/
  isPunct (c : Char) : Bool :=
    32 < c.toNat && c.toNat < 127 && !c.isAlphanum

/-- What stands in brackets at one place. -/
inductive Element where
  | char (c : Char)
  | octets (s : Octets)

/-- The text up to a delimiter before a bracket, and what follows them. -/
def readName (delimiter : Char) : List Char → List Char → Except Flaw (String × List Char)
  | c :: ']' :: cs, name =>
    if c = delimiter then .ok (String.ofList name.reverse, cs)
    else readName delimiter (']' :: cs) (c :: name)
  | c :: cs, name => readName delimiter cs (c :: name)
  | [], _ => .error .openBracket

/-- Reads what stands at one place. -/
def readElement (ignoresCase : Bool) : List Char → Except Flaw (Element × List Char)
  | '[' :: ':' :: cs => do
    let (name, cs) ← readName ':' cs []
    let name := if ignoresCase && (name = "upper" || name = "lower") then "alpha" else name
    match classes.lookup name with
    | some test => return (.octets (.of test), cs)
    | none => .error .badClass
  | '[' :: '=' :: cs => do
    let (name, cs) ← readName '=' cs []
    match name.toList with
    | [c] => return (.octets (.of (· = c)), cs)
    | _ => .error .badCollation
  | '[' :: '.' :: cs => do
    let (name, cs) ← readName '.' cs []
    match name.toList with
    | [c] => return (.char c, cs)
    | _ => .error .badCollation
  | c :: cs => return (.char c, cs)
  | [] => .error .openBracket

/-- A set with what stands at one place. -/
def Element.addTo (found : Octets) : Element → Octets
  | .char a => .of fun c => found.hasChar c || c = a
  | .octets s => .of fun c => found.hasChar c || s.hasChar c

/-- Reads the upper end of a range; gives the set with the range. -/
def readRange (ignoresCase : Bool) (found : Octets) (a : Char) (cs : List Char) :
    Except Flaw (Octets × List Char) :=
  match readElement ignoresCase cs with
  | .ok (.char b, cs) =>
    if b < a then .error .badRange
    else .ok (.of fun c => found.hasChar c || (decide (a ≤ c) && decide (c ≤ b)), cs)
  | .ok (.octets _, _) => .error .badRange
  | .error e => .error e

/-- Whether a hyphen stands here that is neither the first nor the last in its brackets. -/
def isStrayHyphen (isFirst : Bool) : List Char → Bool
  | '-' :: c :: _ => !isFirst && c ≠ ']'
  | _ => false

/-- Reads what stands in brackets. -/
def readElements (ignoresCase : Bool) :
    Nat → Bool → List Char → Octets → Except Flaw (Octets × List Char)
  | 0, _, _, _ => .error .openBracket
  | steps + 1, isFirst, cs, found =>
    if !isFirst && cs.head? = some ']' then .ok (found, cs.drop 1)
    else if isStrayHyphen isFirst cs then .error .badRange
    else do
      let (e, cs) ← readElement ignoresCase cs
      let (found, cs) ← match e, cs with
        | .char a, '-' :: c :: rest =>
          if c = ']' then pure (e.addTo found, cs) else readRange ignoresCase found a (c :: rest)
        | _, _ => pure (e.addTo found, cs)
      readElements ignoresCase steps false cs found

/-- Whether what follows a bracket is a class without its outer brackets. -/
def isBareClass (cs : List Char) : Bool :=
  let cs := if cs.head? = some '^' then cs.drop 1 else cs
  match cs with
  | ':' :: cs =>
    let name := cs.takeWhile fun c => c ≠ ']'
    name.getLast? = some ':' && name.any (· ≠ ':') && !name.contains '[' && !hasRange name &&
      (cs.drop name.length).head?.isSome
  | _ => false
where
  /-- Whether there is a range between two characters. -/
  hasRange (cs : List Char) : Bool :=
    (cs.drop 1).dropLast.contains '-'

/-- Reads what stands in brackets. -/
def readBrackets (d : Dialect) : Reading Tree := do
  let cs := (← get).rest
  if isBareClass cs then throw .bareClass
  let (isNegated, cs) := match cs with
    | '^' :: cs => (true, cs)
    | cs => (false, cs)
  if cs.isEmpty then throw .badPattern
  match readElements d.ignoresCase (cs.length + 1) true cs (.of fun _ => false) with
  | .error e => throw e
  | .ok (found, rest) =>
    modify fun r => { r with rest }
    let found := if d.ignoresCase then found.foldCase else found
    return .one (if isNegated then .of (!found.hasChar ·) else found)

/-! ### Repetitions -/

/-- The greatest count. -/
def maxCount : Nat := 32767

/-- A number of a count: none, one that makes no sense, or a number. -/
inductive Number where
  | none
  | bad
  | some (n : Nat)

/-- Reads a number of a count up to a comma or the end of the count. -/
def readNumber (d : Dialect) : Nat → Number → Reading Number
  | 0, _ => return .bad
  | steps + 1, n => do
    advance d false
    match (← get).token, n with
    | .eof, _ => return .bad
    | .endCount, n => return n
    | .char ',', n => return n
    | .char c, .none =>
      readNumber d steps (if c.isDigit then .some (c.toNat - 48) else .bad)
    | .char c, .some m =>
      readNumber d steps
        (if c.isDigit then .some (min (maxCount + 1) (m * 10 + (c.toNat - 48))) else .bad)
    | _, _ => readNumber d steps .bad

/-- A tree that is repeated, if there is something to repeat. -/
def repeatTree (least : Nat) (most? : Option Nat) : Option Tree → Option Tree
  | none => none
  | some t => if most? = some 0 then none else some (.repeated least most? t)

/-- Whether the token ends a count. -/
def isEndCount (t : Token) : Bool :=
  match t with
  | .endCount => true
  | _ => false

/-- Reads a count after a tree. A count that makes no sense may be a text. -/
def readCount (d : Dialect) (t : Option Tree) : Reading (Option Tree) := do
  let before ← get
  let steps := before.rest.length + 1
  let orText (flaw : Flaw) : Reading (Option Tree) := do
    if d.isTolerant && d.isExtended then
      set { before with token := .char '\x7b' }
      return t
    else throw flaw
  let least ← readNumber d steps .none
  let isComma ← do
    match (← get).token with
    | .char ',' => pure true
    | _ => pure false
  let flaw ← do
    match (← get).token with
    | .eof => pure Flaw.openBrace
    | _ => pure Flaw.badCount
  match least with
  | .bad => orText flaw
  | .none =>
    if isComma then bounded orText 0 steps else throw .badCount
  | .some n =>
    if isComma then bounded orText n steps
    else finish n (some n)
where
  /-- Reads the upper bound of a count. -/
  bounded (orText : Flaw → Reading (Option Tree)) (least steps : Nat) : Reading (Option Tree) := do
    let most ← readNumber d steps .none
    match most, (← get).token with
    | .bad, .eof => orText .openBrace
    | .bad, _ => orText .badCount
    | .none, _ => finish least none
    | .some m, _ => finish least (some m)
  /-- Ends a count. -/
  finish (least : Nat) (most? : Option Nat) : Reading (Option Tree) := do
    if !isEndCount (← get).token then throw .badCount
    if (most?.map (fun m => decide (m < least))).getD false then throw .badCount
    if maxCount < most?.getD least then throw .tooBig
    advance d false
    return repeatTree least most? t

/-- Reads the repetitions after a tree. -/
def readRepeats (d : Dialect) : Nat → Option Tree → Reading (Option Tree)
  | 0, t => return t
  | steps + 1, t => do
    let simple (least : Nat) (most? : Option Nat) : Reading (Option Tree) := do
      advance d false
      pure (repeatTree least most? t)
    let again (t : Option Tree) : Reading (Option Tree) := do
      if !d.isExtended && !d.isTolerant then
        match (← get).token with
        | .star | .count => throw .nothingToRepeat
        | _ => pure ()
      readRepeats d steps t
    match (← get).token with
    | .star => do again (← simple 0 none)
    | .plus => do again (← simple 1 none)
    | .question => do again (← simple 0 (some 1))
    | .count =>
      let before := (← get).here
      let t ← readCount d t
      if (← get).here == before then return t else again t
    | _ => return t

/-! ### Expressions -/

/-- One tree after another one. -/
def joined : Option Tree → Option Tree → Option Tree
  | none, t => t
  | t, none => t
  | some a, some b => some (.seq a b)

/-- The set of one character. -/
def charTree (d : Dialect) (c : Char) : Tree :=
  let s : Octets := .of (· = c)
  .one (if d.ignoresCase then s.foldCase else s)

/-- What is odd about an operator that has nothing to work on. -/
def oddOperator : Token → String
  | .star => "* at start of expression"
  | .plus => "+ at start of expression"
  | .question => "? at start of expression"
  | _ => "\x7b...\x7d at start of expression"

/-- The character of an operator. -/
def operatorChar : Token → Char
  | .star => '*'
  | .plus => '+'
  | .question => '?'
  | .count => '\x7b'
  | .endCount => '\x7d'
  | _ => ')'

/-- Reads what is in parentheses, which come first. -/
def readGroup (d : Dialect) (inner : Reading (Option Tree)) : Reading Tree := do
  let n := (← get).groups + 1
  modify fun r => { r with groups := n }
  advance d true
  let t ← match (← get).token with
    | .endGroup => pure none
    | _ => do
      let t ← inner
      match (← get).token with
      | .endGroup => pure t
      | _ => throw .openParen
  modify fun r => { r with closed := n :: r.closed }
  return .group n (t.getD .empty)

/-- Goes over an operator that has nothing to work on; gives whether it is one. -/
def skipOperator (d : Dialect) (operator : Token) : Reading Bool := do
  let before := (← get).here
  match operator with
  | .count => discard (readCount d (some .empty))
  | _ => advance d false
  return (← get).here != before

/-- Reads a tree with its repetitions. -/
def readPiece (d : Dialect) (inner : Reading (Option Tree)) : Nat → Reading (Option Tree)
  | 0 => throw .tooBig
  | steps + 1 => do
    let repeats (t : Tree) : Reading (Option Tree) := do
      advance d false
      readRepeats d (steps + 1) (some t)
    let token := (← get).token
    match token with
    | .char c => repeats (charTree d c)
    | .any => repeats (.one (.of fun _ => true))
    | .octets s => repeats (.one s)
    | .group => do repeats (← readGroup d inner)
    | .bracket => do repeats (← readBrackets d)
    | .again n =>
      if !(← get).closed.contains n then throw .badReference
      modify fun r => { r with looksBack := true }
      repeats (.again n)
    | .place p =>
      advance d true
      return some (.place p)
    | .star | .plus | .question | .count =>
      match d.isExtended, d.isTolerant, token with
      | true, true, token =>
        if ← skipOperator d token then noteOddity (oddOperator token)
        readPiece d inner steps
      | true, false, _ | false, false, .count => throw .nothingToRepeat
      | false, _, t => repeats (charTree d (operatorChar t))
    | .endGroup =>
      if d.isExtended && d.isTolerant then repeats (charTree d ')') else throw .closeParen
    | .endCount => repeats (charTree d '\x7d')
    | .alternative | .eof => return none
    | .backslash => throw .trailingBackslash

/-- Whether a token ends an alternative. -/
def endsBranch (isNested : Bool) : Token → Bool
  | .alternative | .eof => true
  | .endGroup => isNested
  | _ => false

/-- Reads the pieces of an alternative. -/
def readPieces (d : Dialect) (inner : Reading (Option Tree)) (isNested : Bool) :
    Nat → Option Tree → Reading (Option Tree)
  | 0, t => return t
  | steps + 1, t => do
    if endsBranch isNested (← get).token then return t
    else
      let piece ← readPiece d inner (steps + 1)
      readPieces d inner isNested steps (joined t piece)

/-- Reads alternatives after the first one. -/
def readAlternatives (d : Dialect) (inner : Reading (Option Tree)) (isNested : Bool) :
    Nat → Option Tree → Reading (Option Tree)
  | 0, t => return t
  | steps + 1, t => do
    match (← get).token with
    | .alternative =>
      advance d true
      let next ← readPieces d inner isNested (steps + 1) none
      readAlternatives d inner isNested steps
        (some (.either (t.getD .empty) (next.getD .empty)))
    | _ => return t

/-- Reads an expression in which so many parentheses are nested at most. -/
def readWithin (d : Dialect) : Nat → Bool → Reading (Option Tree)
  | 0, _ => throw .tooBig
  | depth + 1, isNested => do
    let steps := (← get).here.length + 2
    let inner := readWithin d depth true
    let first ← readPieces d inner isNested steps none
    readAlternatives d inner isNested steps first

end Reading

/-- A pattern that has been read: its tree, and what is odd about it. -/
structure Pattern where
  tree : Tree
  groups : Nat
  looksBack : Bool
  ignoresCase : Bool
  oddities : List String := []

/-- A pattern that is ready to be searched for. -/
def Pattern.compiled (p : Pattern) : Compiled :=
  { code := p.tree.code, groups := p.groups, looksBack := p.looksBack, ignoresCase := p.ignoresCase }

/-- Reads a pattern. -/
def read (d : Dialect) (pattern : String) : Except Flaw Pattern :=
  let cs := pattern.toList
  let body : Reading (Option Tree) := do
    Reading.advance d true
    Reading.readWithin d (cs.length + 1) false
  match body.run { rest := cs } with
  | .error e _ => .error e
  | .ok t r => .ok {
      tree := t.getD .empty
      groups := r.groups
      looksBack := r.looksBack
      ignoresCase := d.ignoresCase
      oddities := r.oddities.reverse }

/-- The pattern of a text that stands for itself. -/
def literal (ignoresCase : Bool) (text : String) : Pattern :=
  let d : Dialect := { isExtended := false, isTolerant := false, ignoresCase }
  { tree := text.toList.foldr (fun c t => .seq (Reading.charTree d c) t) .empty
    groups := 0
    looksBack := false
    ignoresCase }

end LuaBundler.Utility.Regex
