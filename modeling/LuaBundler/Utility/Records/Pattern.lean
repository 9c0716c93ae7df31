import LuaBundler.Utility.Regex.Reader

/-!
# Patterns of record programs

Patterns are extended regular expressions in which a backslash has its meaning as in texts, also in
brackets.

The rule for what is in parentheses is given to the rules for parts; `readWithin` ties them
together.
-/

namespace LuaBundler.Utility.Records

open LuaBundler.Utility.Regex (Octets Tree Compiled)

namespace Pattern

/-- What is wrong with a pattern. -/
inductive Flaw where
  | openParen
  | closeParen
  | badClass
  | missingOperand

/-- What is said about a flaw. -/
def Flaw.message : Flaw → String
  | openParen => "missing ')'"
  | closeParen => "missing '('"
  | badClass => "bad class -- [], [^] or ["
  | missingOperand => "missing operand"

/-- The octet that an escape stands for, and what follows; octal digits stand for their value. -/
def escaped (c : Char) (cs : List Char) : Char × List Char :=
  let isOctal (d : Char) : Bool := '0' ≤ d && d ≤ '7'
  if isOctal c then
    let ds := ((c :: cs).take 3).takeWhile isOctal
    (Char.ofNat ((ds.foldl (fun n d => n * 8 + (d.toNat - 48)) 0) % 256), cs.drop (ds.length - 1))
  else
    match "abfnrtv".toList.findIdx? (· == c) with
    | some i => (("\x07\x08\x0c\n\r\t\x0b".toList).getD i c, cs)
    | none => (c, cs)

/-- The tree of one octet. -/
def charTree (c : Char) : Tree :=
  .one (.of (· = c))

/-! ### Brackets -/

/-- What stands at one place in brackets: a class, or an octet. -/
def readElement : List Char → Except Flaw ((Octets ⊕ Char) × List Char)
  | '[' :: ':' :: cs =>
    let name := cs.takeWhile Char.isAlpha
    match (Regex.Reading.classes.lookup (String.ofList name)), cs.drop name.length with
    | some test, ':' :: ']' :: rest => .ok (.inl (.of test), rest)
    | _, _ => .ok (.inr '[', ':' :: cs)
  | '\\' :: c :: cs =>
    let (c, cs) := escaped c cs
    .ok (.inr c, cs)
  | c :: cs => .ok (.inr c, cs)
  | [] => .error .badClass

/-- Reads what stands in brackets up to the closing one. -/
def readElements : Nat → Bool → List Char → Octets → Except Flaw (Octets × List Char)
  | 0, _, _, _ => .error .badClass
  | steps + 1, isFirst, cs, found =>
    if !isFirst && cs.head? = some ']' then .ok (found, cs.drop 1)
    else do
      let (e, cs) ← readElement cs
      let single (c : Char) : Octets := .of fun d => found.hasChar d || d = c
      match e, cs with
      | .inl s, cs => readElements steps false cs (.of fun d => found.hasChar d || s.hasChar d)
      | .inr a, '-' :: c :: rest =>
        if c = ']' then readElements steps false cs (single a)
        else
          let (e, rest) ← readElement (c :: rest)
          match e with
          | .inr b =>
            readElements steps false rest
              (.of fun d => found.hasChar d || (decide (a ≤ d) && decide (d ≤ b)))
          | .inl _ => readElements steps false cs (single a)
      | .inr a, cs => readElements steps false cs (single a)

/-- Reads a set after its opening bracket. -/
def readSet (cs : List Char) : Except Flaw (Tree × List Char) := do
  let isNegated := cs.head? = some '^'
  let body := if isNegated then cs.drop 1 else cs
  let (found, rest) ← readElements (body.length + 1) true body (.of fun _ => false)
  return (.one (if isNegated then .of fun c => !found.hasChar c else found), rest)

/-! ### Repetitions -/

/-- The bounds of a repetition after its opening brace, and what follows. -/
def readBounds? (cs : List Char) : Option (Nat × Option Nat × List Char) :=
  let value (ds : List Char) : Nat := ds.foldl (fun n d => n * 10 + (d.toNat - 48)) 0
  let ds := cs.takeWhile Char.isDigit
  match cs.drop ds.length with
  | '\x7d' :: rest => if ds = [] then none else some (value ds, some (value ds), rest)
  | ',' :: rest =>
    let es := rest.takeWhile Char.isDigit
    match rest.drop es.length with
    | '\x7d' :: rest =>
      if ds = [] && es = [] then none
      else some (value ds, if es = [] then none else some (value es), rest)
    | _ => none
  | _ => none

/-- Reads the repetitions of a tree. -/
def readRepeats : Nat → Tree → List Char → Tree × List Char
  | 0, t, cs => (t, cs)
  | steps + 1, t, cs =>
    match cs with
    | '*' :: rest => readRepeats steps (.repeated 0 none t) rest
    | '+' :: rest => readRepeats steps (.repeated 1 none t) rest
    | '?' :: rest => readRepeats steps (.repeated 0 (some 1) t) rest
    | '\x7b' :: rest =>
      match readBounds? rest with
      | some (least, most?, rest) =>
        if most?.any (· < least) then (t, cs)
        else readRepeats steps (.repeated least most? t) rest
      | none => (t, cs)
    | _ => (t, cs)

/-! ### Pieces -/

/-- Reads one piece, without what repeats it. -/
def readPiece (inner : List Char → Except Flaw (Tree × List Char)) :
    List Char → Except Flaw (Tree × List Char)
  | '(' :: ')' :: cs => .ok (.empty, cs)
  | '(' :: cs => do
    let (t, rest) ← inner cs
    match rest with
    | ')' :: rest => return (t, rest)
    | _ => .error .openParen
  | '[' :: cs => readSet cs
  | '.' :: cs => .ok (.one (.of fun _ => true), cs)
  | '^' :: cs => .ok (.place .textStart, cs)
  | '$' :: cs => .ok (.place .textEnd, cs)
  | ['\\'] => .ok (charTree '\\', [])
  | '\\' :: c :: cs =>
    let (c, cs) := escaped c cs
    .ok (charTree c, cs)
  | c :: cs =>
    if c = '*' || c = '+' || c = '?' then .error .missingOperand else .ok (charTree c, cs)
  | [] => .error .missingOperand

/-- Reads pieces in sequence. -/
def readSequence (inner : List Char → Except Flaw (Tree × List Char)) :
    Nat → List Char → Tree → Except Flaw (Tree × List Char)
  | 0, cs, t => .ok (t, cs)
  | steps + 1, cs, t =>
    match cs with
    | [] => .ok (t, [])
    | c :: _ =>
      if c = '|' || c = ')' then .ok (t, cs)
      else do
        let (piece, rest) ← readPiece inner cs
        let (piece, rest) := readRepeats (rest.length + 1) piece rest
        readSequence inner steps rest (.seq t piece)

/-- Reads alternatives. -/
def readAlternatives (inner : List Char → Except Flaw (Tree × List Char)) :
    Nat → List Char → Except Flaw (Tree × List Char)
  | 0, cs => .ok (.empty, cs)
  | steps + 1, cs => do
    let (first, rest) ← readSequence inner (cs.length + 1) cs .empty
    match rest with
    | '|' :: rest =>
      let (second, rest) ← readAlternatives inner steps rest
      return (.either first second, rest)
    | _ => return (first, rest)

/-- Reads what is inside of so many parentheses at most. -/
def readWithin : Nat → List Char → Except Flaw (Tree × List Char)
  | 0, _ => .error .openParen
  | depth + 1, cs => readAlternatives (readWithin depth) (cs.length + 1) cs

/-- Reads a pattern. -/
def read (text : String) : Except Flaw Compiled := do
  let cs := text.toList
  let (t, rest) ← readWithin (cs.length + 1) cs
  if rest ≠ [] then .error .closeParen
  return { code := t.code, groups := 0, looksBack := false }

/-- The pattern of a text that stands for itself. -/
def literal (text : String) : Compiled :=
  let t := text.toList.foldr (fun c t => .seq (charTree c) t) Tree.empty
  { code := t.code, groups := 0, looksBack := false }

end Pattern

end LuaBundler.Utility.Records
