import LuaBundler.Text.Split
import LuaBundler.Toml.Lexer
import LuaBundler.Toml.Value

/-!
# Reading a settings text

A settings text is a sequence of lines, each empty, a header that opens a table, or a key with a
value for the table opened last. Values are strings, integers, truth values, arrays and inline
tables; line ends do not count inside brackets and braces, and the last comma there is optional.

Numbers with a fraction, dates and arrays of tables are no settings, so a text that has one is not
read.
-/

namespace LuaBundler.Toml

open Text

/-! ### Scalars -/

/-- The value of a digit in a base. -/
def digit? (base : Nat) (c : Char) : Option Nat :=
  (hexValue? c).filter (· < base)

/-- The number that digits denote in a base; underscores may stand between two digits. -/
def digits? (base : Nat) (cs : List Char) : Option Nat :=
  let groups := splitOn '_' cs
  if groups.any (· = []) then none
  else groups.flatten.foldlM (fun n c => (digit? base c).map fun d => n * base + d) 0

/-- An integer in decimal, without its sign and without superfluous zeros. -/
def decimal? (cs : List Char) : Option Nat :=
  if cs.head? = some '0' ∧ 1 < cs.length then none else digits? 10 cs

/-- The integer that a word denotes. -/
def integer? : List Char → Option Int
  | '0' :: 'x' :: cs => (digits? 16 cs).map Int.ofNat
  | '0' :: 'o' :: cs => (digits? 8 cs).map Int.ofNat
  | '0' :: 'b' :: cs => (digits? 2 cs).map Int.ofNat
  | '+' :: cs => (decimal? cs).map Int.ofNat
  | '-' :: cs => (decimal? cs).map fun n => -Int.ofNat n
  | cs => (decimal? cs).map Int.ofNat

/-- The value that a word denotes. -/
def scalar? (word : List Char) : Option Value :=
  if word = "true".toList then some (.bool true)
  else if word = "false".toList then some (.bool false)
  else (integer? word).map .integer

/-! ### Keys -/

/-- One part of a key. -/
def keyPart? : Token → Option String
  | .word w => if w.all isBare then some (String.ofList w) else none
  | .string s => some s
  | _ => none

/-- A key at the start of the tokens, and what follows. -/
def key? : List Token → Option (List String × List Token)
  | part :: .dot :: ts => do
    let first ← keyPart? part
    let (others, rest) ← key? ts
    return (first :: others, rest)
  | part :: ts => (keyPart? part).map fun first => ([first], ts)
  | [] => none

/-! ### Values -/

/-- The tokens from the first that is no line end. -/
def skipLines (ts : List Token) : List Token :=
  ts.dropWhile (· = .newline)

/-- Items up to a closing token, with so many steps; a comma stands after each, the last one
aside. -/
def itemsUntil {α : Type} (item : List Token → Option (α × List Token)) (close : Token) :
    Nat → List Token → Option (List α × List Token)
  | 0, _ => none
  | steps + 1, ts =>
    match skipLines ts with
    | [] => none
    | t :: rest =>
      if t = close then some ([], rest)
      else do
        let (x, rest) ← item (t :: rest)
        match skipLines rest with
        | .comma :: rest =>
          let (xs, rest) ← itemsUntil item close steps rest
          return (x :: xs, rest)
        | t :: rest => if t = close then some ([x], rest) else none
        | [] => none

/-- A member of an inline table, its value read by `value`. -/
def member? (value : List Token → Option (Value × List Token)) (ts : List Token) :
    Option ((List String × Value) × List Token) := do
  match ← key? ts with
  | (key, .equals :: rest) => (value rest).map fun (v, rest) => ((key, v), rest)
  | _ => none

/-- How deep arrays and inline tables may nest. -/
def maxDepth : Nat := 80

/-- A value at the start of the tokens, and what follows. -/
def value? : Nat → List Token → Option (Value × List Token)
  | _, .word w :: ts => (scalar? w).map fun v => (v, ts)
  | _, .string s :: ts => some (.string s, ts)
  | _, .block s :: ts => some (.string s, ts)
  | depth + 1, .openBracket :: ts =>
    (itemsUntil (value? depth) .closeBracket ts.length ts).map fun (items, rest) =>
      (.array items, rest)
  | depth + 1, .openBrace :: ts => do
    let (given, rest) ← itemsUntil (member? (value? depth)) .closeBrace ts.length ts
    let members ← given.foldlM (fun ms (key, v) => Members.assign ms key v) []
    return (.table .inline members, rest)
  | _, _ => none

/-! ### Lines -/

/-- What a line says. -/
inductive Line where
  | header (path : List String)
  | assign (key : List String) (value : Value)

/-- The line at the start of the tokens, and the tokens after its end. -/
def line? (ts : List Token) : Option (Line × List Token) := do
  let (line, rest) ← match ts with
    | .openBracket :: ts => do
      match ← key? ts with
      | (path, .closeBracket :: rest) => some (Line.header path, rest)
      | _ => none
    | ts => do
      match ← key? ts with
      | (key, .equals :: rest) =>
        (value? maxDepth rest).map fun (v, rest) => (Line.assign key v, rest)
      | _ => none
  match rest with
  | [] => some (line, [])
  | .newline :: rest => some (line, rest)
  | _ => none

/-- The lines of a text, with so many steps. -/
def lines? : Nat → List Token → Option (List Line)
  | 0, ts => if skipLines ts = [] then some [] else none
  | steps + 1, ts =>
    match skipLines ts with
    | [] => some []
    | t :: ts => do
      let (line, rest) ← line? (t :: ts)
      return line :: (← lines? steps rest)

/-- A table under construction: its members, and the path of the table opened last. -/
structure Draft where
  members : Members
  opened : List String

/-- Takes in a line. -/
def Draft.add (d : Draft) : Line → Option Draft
  | .header path => (d.members.openTable path).map fun ms => ⟨ms, path⟩
  | .assign key v =>
    (d.members.updateAt (fun ms => ms.assign key v) d.opened).map fun ms =>
      { d with members := ms }

/-- The table that a text gives. -/
def read? (s : String) : Option Members := do
  let ts ← lex s.toList
  let draft ← (← lines? ts.length ts).foldlM Draft.add ⟨[], []⟩
  return draft.members

end LuaBundler.Toml
