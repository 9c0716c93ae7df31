import LuaBundler.Utility.Records.Syntax
import LuaBundler.Utility.Records.Value

/-!
# Tokens of record programs

The text of a program is cut into tokens. Whether a slash starts a pattern or divides depends on
what is before it.
-/

namespace LuaBundler.Utility.Records

/-- A token. -/
inductive Token where
  | number (x : Float)
  | text (s : String)
  | pattern (s : String)
  | name (s : String)
  /-- A name with an opening parenthesis right after it. -/
  | call (s : String)
  | builtin (b : Builtin) (least most : Nat)
  /-- A name that has a meaning of its own. -/
  | word (s : String)
  | sign (s : String)
  | newline
  | finish

/-- A token with its text and its line. -/
structure Lexeme where
  token : Token
  spelled : String
  line : Nat

/-- What is wrong with a program. -/
structure Flaw where
  text : String

namespace Flaw

/-- A flaw of a line. -/
def atLine (line : Nat) (text : String) : Flaw :=
  ⟨"line " ++ Text.decimal line ++ ": " ++ text⟩

end Flaw

namespace Lexeme

/-- The names that have a meaning of their own. -/
def words : List String := ["BEGIN", "END", "function", "if", "else", "while", "for", "do",
  "break", "continue", "next", "nextfile", "exit", "return", "delete", "in", "getline", "print",
  "printf"]

/-- The signs, longer ones first. -/
def signs : List String := ["++", "--", "+=", "-=", "*=", "/=", "%=", "^=", "==", "<=", ">=", "!=",
  "&&", "||", "!~", ">>", "\x7b", "\x7d", "(", ")", "[", "]", ";", ",", "+", "-", "*", "/", "%",
  "^", "=", "<", ">", "|", "?", ":", "!", "~", "$"]

/-- Whether a slash after a token divides. -/
def divides : Token → Bool
  | .number _ | .text _ | .name _ => true
  | .builtin b _ _ => b = .length
  | .sign s => [")", "]", "++", "--"].contains s
  | _ => false

/-- Whether a character can start a name. -/
def isNameStart (c : Char) : Bool :=
  c.isAlpha || c = '_'

/-- The text between quotes, without its escapes, and what follows; nothing if it does not end. -/
def readQuoted : Nat → List Char → List Char → Option (String × List Char)
  | 0, _, _ => none
  | steps + 1, cs, found =>
    match cs with
    | [] => none
    | '"' :: rest => some (String.ofList found.reverse, rest)
    | '\n' :: _ => none
    | '\\' :: '\n' :: rest => readQuoted steps rest found
    | '\\' :: c :: rest =>
      let (cs, rest) := escape c rest
      readQuoted steps rest (cs.reverse ++ found)
    | c :: rest => readQuoted steps rest (c :: found)
where
  /-- What an escape in a text stands for, and what follows. -/
  escape (c : Char) (cs : List Char) : List Char × List Char :=
    let isOctal (d : Char) : Bool := '0' ≤ d && d ≤ '7'
    let hex := cs.takeWhile RealNumber.isHexDigit |>.take 2
    if c = 'x' && !hex.isEmpty then
      ([Char.ofNat (hex.foldl (fun n d => n * 16 + RealNumber.hexValue d) 0)], cs.drop hex.length)
    else if isOctal c || "abfnrtv\"\\".toList.contains c then
      let (c, cs) := Pattern.escaped c cs
      ([c], cs)
    else (['\\', c], cs)

/-- The text of a pattern up to its end, and what follows; nothing if it does not end. -/
def readPattern : Nat → Bool → List Char → List Char → Option (String × List Char)
  | 0, _, _, _ => none
  | steps + 1, inBrackets, cs, found =>
    match cs with
    | [] | '\n' :: _ => none
    | '\\' :: '/' :: rest => readPattern steps inBrackets rest ('/' :: found)
    | '\\' :: c :: rest => readPattern steps inBrackets rest (c :: '\\' :: found)
    | '[' :: '^' :: ']' :: rest =>
      if inBrackets then readPattern steps true ('^' :: ']' :: rest) ('[' :: found)
      else readPattern steps true rest ("]^[".toList ++ found)
    | '[' :: ']' :: rest =>
      if inBrackets then readPattern steps true (']' :: rest) ('[' :: found)
      else readPattern steps true rest ("][".toList ++ found)
    | '[' :: ':' :: rest =>
      let name := rest.takeWhile Char.isAlpha
      match inBrackets, rest.drop name.length with
      | true, ':' :: ']' :: rest =>
        readPattern steps true rest ("]:".toList ++ name.reverse ++ ":[".toList ++ found)
      | _, _ => readPattern steps true (':' :: rest) ('[' :: found)
    | '[' :: rest => readPattern steps true rest ('[' :: found)
    | ']' :: rest => readPattern steps false rest (']' :: found)
    | '/' :: rest =>
      if inBrackets then readPattern steps true rest ('/' :: found)
      else some (String.ofList found.reverse, rest)
    | c :: rest => readPattern steps inBrackets rest (c :: found)

/-- A number at the start of a text, and what follows. -/
def readDecimal (cs : List Char) : Float × List Char :=
  let whole := cs.takeWhile Char.isDigit
  let rest := cs.drop whole.length
  let (part, rest) := match rest with
    | '.' :: ds =>
      let part := ds.takeWhile Char.isDigit
      ('.' :: part, ds.drop part.length)
    | _ => ([], rest)
  let (power, rest) := match rest with
    | e :: '+' :: ds => exponent e ['+'] ds rest
    | e :: '-' :: ds => exponent e ['-'] ds rest
    | e :: ds => exponent e [] ds rest
    | [] => ([], [])
  (numberAtStart (String.ofList (whole ++ part ++ power)), rest)
where
  /-- An exponent after its letter and sign, if it is one. -/
  exponent (letter : Char) (sign ds rest : List Char) : List Char × List Char :=
    let digits := ds.takeWhile Char.isDigit
    if letter.toLower = 'e' && !digits.isEmpty then
      ('e' :: sign ++ digits, ds.drop digits.length)
    else ([], rest)

/-- The token of a name. -/
def ofName (name : String) (rest : List Char) : Token :=
  if words.contains name then .word name
  else match builtins.lookup name with
    | some (b, least, most) => .builtin b least most
    | none => if rest.head? = some '(' then .call name else .name name

/-- The state of cutting: the tokens, the last one first, complaints, and how many brackets are
open. -/
structure Cutter where
  found : List Lexeme := []
  complaints : List Flaw := []
  line : Nat := 1
  parens : Nat := 0
  braces : Nat := 0

namespace Cutter

/-- Adds a token. -/
def add (c : Cutter) (token : Token) (spelled : String) : Cutter :=
  { c with found := ⟨token, spelled, c.line⟩ :: c.found }

/-- Adds a complaint. -/
def complain (c : Cutter) (text : String) : Cutter :=
  { c with complaints := c.complaints ++ [Flaw.atLine c.line text] }

/-- Adds a sign; closing brackets that nothing opened are complained of and left out. -/
def addSign (c : Cutter) (s : String) : Cutter :=
  if s = "(" then { c with parens := c.parens + 1 }.add (.sign s) s
  else if s = ")" then
    if c.parens = 0 then c.complain "extra ')'" else { c with parens := c.parens - 1 }.add (.sign s) s
  else if s = "\x7b" then { c with braces := c.braces + 1 }.add (.sign s) s
  else if s = "\x7d" then
    if c.braces = 0 then c.complain "extra '\x7d'"
    else { c with braces := c.braces - 1 }.add (.sign s) s
  else c.add (.sign s) s

end Cutter

/-- How many characters of a token that does not end are shown. -/
def startOf (cs : List Char) : String :=
  String.ofList ((cs.takeWhile (· ≠ '\n')).take 10) ++ " ..."

/-- Cuts a text into tokens. -/
def cut : Nat → List Char → Cutter → Except Flaw Cutter
  | 0, _, c => .ok c
  | steps + 1, cs, c =>
    match cs with
    | [] => .ok c
    | '\n' :: rest => cut steps rest { c.add .newline "end of line" with line := c.line + 1 }
    | '\\' :: '\n' :: rest => cut steps rest { c with line := c.line + 1 }
    | '\\' :: '\r' :: '\n' :: rest => cut steps rest { c with line := c.line + 1 }
    | '#' :: rest => cut steps (rest.dropWhile (· ≠ '\n')) c
    | '"' :: rest =>
      match readQuoted (rest.length + 1) rest [] with
      | some (s, left) =>
        let lines := ((rest.take (rest.length - left.length)).filter (· = '\n')).length
        cut steps left { c.add (.text s) s with line := c.line + lines }
      | none => .error (.atLine c.line ("runaway string constant \"" ++ startOf rest))
    | d :: rest =>
      if " \t\r".toList.contains d then cut steps rest c
      else if d.isDigit || (d = '.' && (rest.head?.map Char.isDigit).getD false) then
        let (x, left) := readDecimal cs
        cut steps left (c.add (.number x) (String.ofList (cs.take (cs.length - left.length))))
      else if isNameStart d then
        let name := cs.takeWhile fun e => isNameStart e || e.isDigit
        let left := cs.drop name.length
        let name := String.ofList name
        cut steps left (c.add (ofName name left) name)
      else if d = '/' && !(c.found.head?.map fun l => divides l.token).getD false then
        match readPattern (rest.length + 1) false rest [] with
        | some (s, left) => cut steps left (c.add (.pattern s) s)
        | none => .error (.atLine c.line ("runaway regular expression /" ++ startOf rest))
      else
        match signs.find? fun s => s.toList.isPrefixOf cs with
        | some s => cut steps (cs.drop s.length) (c.addSign s)
        | none => .error ⟨Text.decimal c.line ++ ": unexpected character '" ++
            String.singleton d ++ "'"⟩

/-- The tokens of a program, and what is wrong with its brackets. -/
def ofText (text : String) : Except Flaw (List Lexeme × List Flaw) := do
  let c ← cut (text.length + 1) text.toList {}
  return (c.found.reverse, c.complaints)

end Lexeme

end LuaBundler.Utility.Records
