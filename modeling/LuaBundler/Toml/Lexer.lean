import LuaBundler.Text.Digits

/-!
# Tokens of a settings text

A settings text is cut into words, strings, marks and line ends; spaces, tabs and comments vanish. A
word is a run of bare-key characters and plus signs, so it covers bare keys, integers and truth
values. Strings have four forms: with escapes or literal, on one line or over several.

Control characters other than the tab are refused everywhere, and a carriage return has to be
followed by a line feed.
-/

namespace LuaBundler.Toml

open Text

/-- A lexical unit of a settings text. -/
inductive Token where
  | word (text : List Char)
  /-- A string on one line; it can also be a key. -/
  | string (text : String)
  /-- A string over several lines. -/
  | block (text : String)
  | dot | equals | comma | openBracket | closeBracket | openBrace | closeBrace
  | newline
  deriving Repr, DecidableEq

/-- A character that a bare key may have. -/
def isBare (c : Char) : Bool :=
  c.isAlphanum || c == '_' || c == '-'

/-- A character that a word may have. -/
def isWordChar (c : Char) : Bool :=
  isBare c || c == '+'

/-- A control character other than the tab. -/
def isControl (c : Char) : Bool :=
  (c.toNat < 0x20 && c != '\t') || c.toNat == 0x7f

/-- A space or a tab. -/
def isGap (c : Char) : Bool :=
  c == ' ' || c == '\t'

/-! ### Escapes -/

/-- The number that so many hexadecimal digits denote, and what follows. -/
def hexNumber? : Nat → Nat → List Char → Option (Nat × List Char)
  | 0, n, cs => some (n, cs)
  | _ + 1, _, [] => none
  | count + 1, n, c :: cs => do hexNumber? count (n * 16 + (← hexValue? c)) cs

/-- The character of so many hexadecimal digits, and what follows. -/
def hexChar? (count : Nat) (cs : List Char) : Option (Char × List Char) := do
  let (n, rest) ← hexNumber? count 0 cs
  if n.isValidChar then some (Char.ofNat n, rest) else none

/-- The character of an escape whose backslash has been read, and what follows. -/
def escape? : List Char → Option (Char × List Char)
  | 'b' :: cs => some ('\x08', cs)
  | 't' :: cs => some ('\t', cs)
  | 'n' :: cs => some ('\n', cs)
  | 'f' :: cs => some ('\x0c', cs)
  | 'r' :: cs => some ('\r', cs)
  | 'e' :: cs => some ('\x1b', cs)
  | '"' :: cs => some ('"', cs)
  | '\\' :: cs => some ('\\', cs)
  | 'x' :: cs => hexChar? 2 cs
  | 'u' :: cs => hexChar? 4 cs
  | 'U' :: cs => hexChar? 8 cs
  | _ => none

/-! ### Strings

Every reader takes at most as many steps as the text has characters. -/

/-- A string with escapes on one line, from after its opening quote. -/
def basic? : Nat → List Char → Option (List Char × List Char)
  | 0, _ => none
  | _ + 1, [] => none
  | steps + 1, c :: cs =>
    if c = '"' then some ([], cs)
    else if c = '\\' then do
      let (e, rest) ← escape? cs
      let (body, after) ← basic? steps rest
      return (e :: body, after)
    else if isControl c then none
    else (basic? steps cs).map fun (body, after) => (c :: body, after)

/-- A literal string on one line, from after its opening quote. -/
def literal? : List Char → Option (List Char × List Char)
  | [] => none
  | c :: cs =>
    if c = '\'' then some ([], cs)
    else if isControl c then none
    else (literal? cs).map fun (body, after) => (c :: body, after)

/-- The number of times a character is repeated at the start of a text. -/
def run (c : Char) (cs : List Char) : Nat :=
  (cs.takeWhile (· = c)).length

/-- The text without one line end at its start. -/
def dropNewline : List Char → List Char
  | '\n' :: cs => cs
  | '\r' :: '\n' :: cs => cs
  | cs => cs

/-- Whether spaces and tabs lead to a line end. -/
def endsLine (cs : List Char) : Bool :=
  match cs.dropWhile isGap with
  | '\n' :: _ => true
  | '\r' :: '\n' :: _ => true
  | _ => false

/-- The text after the spaces, tabs and line ends that a line-ending backslash skips. -/
def skipGaps : List Char → List Char
  | '\r' :: '\n' :: cs => skipGaps cs
  | c :: cs => if isGap c || c == '\n' then skipGaps cs else c :: cs
  | [] => []

/-- A string over several lines, from after its opening quotes. Up to two quotes may stand before
the three that close it. -/
def block? (quote : Char) : Nat → List Char → Option (List Char × List Char)
  | 0, _ => none
  | _ + 1, [] => none
  | steps + 1, c :: cs =>
    if c = quote then
      let n := run quote (c :: cs)
      if n < 3 then (block? quote steps cs).map fun (body, after) => (c :: body, after)
      else some (List.replicate (min n 5 - 3) quote, (c :: cs).drop (min n 5))
    else if c = '\\' ∧ quote = '"' then
      if endsLine cs then block? quote steps (skipGaps cs)
      else do
        let (e, rest) ← escape? cs
        let (body, after) ← block? quote steps rest
        return (e :: body, after)
    else if c = '\r' then
      match cs with
      | '\n' :: rest => (block? quote steps rest).map fun (body, after) =>
          ('\r' :: '\n' :: body, after)
      | _ => none
    else if isControl c ∧ c ≠ '\n' then none
    else (block? quote steps cs).map fun (body, after) => (c :: body, after)

/-- The string token at a quote, and what follows. -/
def string? (quote : Char) (cs : List Char) : Option (Token × List Char) :=
  if 3 ≤ run quote cs then
    (block? quote cs.length (dropNewline (cs.drop 3))).map fun (body, rest) =>
      (.block (String.ofList body), rest)
  else
    (if quote = '"' then basic? cs.length (cs.drop 1) else literal? (cs.drop 1)).map
      fun (body, rest) => (.string (String.ofList body), rest)

/-! ### Tokens -/

/-- The text from the end of a comment on. -/
def afterComment? (cs : List Char) : Option (List Char) :=
  let rest := cs.dropWhile fun c => !isControl c
  match rest with
  | [] => some []
  | '\n' :: _ => some rest
  | '\r' :: '\n' :: _ => some rest
  | _ => none

/-- The token at the start of a text, and what follows. -/
def token? : List Char → Option (Token × List Char)
  | [] => none
  | '.' :: cs => some (.dot, cs)
  | '=' :: cs => some (.equals, cs)
  | ',' :: cs => some (.comma, cs)
  | '[' :: cs => some (.openBracket, cs)
  | ']' :: cs => some (.closeBracket, cs)
  | '\x7b' :: cs => some (.openBrace, cs)
  | '\x7d' :: cs => some (.closeBrace, cs)
  | '\n' :: cs => some (.newline, cs)
  | '\r' :: '\n' :: cs => some (.newline, cs)
  | '"' :: cs => string? '"' ('"' :: cs)
  | '\'' :: cs => string? '\'' ('\'' :: cs)
  | cs =>
    match cs.takeWhile isWordChar with
    | [] => none
    | word => some (.word word, cs.dropWhile isWordChar)

/-- The tokens of a text, with so many steps. -/
def lexWithin : Nat → List Char → Option (List Token)
  | 0, cs => if cs.all isGap then some [] else none
  | steps + 1, cs =>
    match cs.dropWhile isGap with
    | [] => some []
    | '#' :: rest => do lexWithin steps (← afterComment? rest)
    | rest => do
      let (token, after) ← token? rest
      return token :: (← lexWithin steps after)

/-- The tokens of a text; a byte order mark at its start does not count. -/
def lex (cs : List Char) : Option (List Token) :=
  match cs with
  | '\ufeff' :: rest => lexWithin rest.length rest
  | cs => lexWithin cs.length cs

end LuaBundler.Toml
