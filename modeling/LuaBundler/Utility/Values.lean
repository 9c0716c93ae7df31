import LuaBundler.Utility.Format
import LuaBundler.Utility.Options

/-!
# Utilities: values

Printing what is given in arguments: words, and parts of paths. Two utilities only have a status.
-/

namespace LuaBundler.Utility

open LuaBundler.Files LuaBundler.System LuaBundler.Text

/-! ### Statuses -/

/-- Does nothing. -/
def succeed : Program := fun _ => return 0

/-- Does nothing, and fails. -/
def failAlways : Program := fun _ => return 1

/-! ### Words -/

/-- The letters of an argument of `echo` that may be options. -/
def echoLetters? (arg : String) : Option (List Char) :=
  match arg.toList with
  | '-' :: c :: cs => if (c :: cs).all fun d => "neE".toList.contains d then some (c :: cs) else none
  | _ => none

/-- The options of `echo`: whether the end of the line is left out, and whether backslashes stand for
other characters; and the other arguments. -/
def echoOptions : List String → Bool → Bool → Bool × Bool × List String
  | [], isOpen, escapes => (isOpen, escapes, [])
  | arg :: args, isOpen, escapes =>
    match echoLetters? arg with
    | none => (isOpen, escapes, arg :: args)
    | some cs =>
      let escapes := match cs.reverse.find? (· ≠ 'n') with
        | some c => c = 'e'
        | none => escapes
      echoOptions args (isOpen || cs.contains 'n') escapes

/-- The value of a digit of a base. -/
def digitOf? (base : Nat) (c : Char) : Option Nat :=
  let n := if c.isDigit then c.toNat - 48
    else if 'a' ≤ c ∧ c ≤ 'f' then c.toNat - 87
    else if 'A' ≤ c ∧ c ≤ 'F' then c.toNat - 55 else 16
  if n < base then some n else none

/-- The octet that up to so many digits spell, and what follows. -/
def digitsOctet (base most : Nat) (cs : List Char) : Char × List Char :=
  let ds := (cs.take most).takeWhile fun c => (digitOf? base c).isSome
  let n := ds.foldl (fun n c => n * base + (digitOf? base c).getD 0) 0
  (Char.ofNat (n % 256), cs.drop ds.length)

/-- What a backslash stands for before some characters, what follows them, and whether all printing
ends there. Octal digits come after a zero if `afterZero`. -/
def escapeStep (afterZero : Bool) (cs : List Char) : List Char × List Char × Bool :=
  match cs with
  | [] => (['\\'], [], false)
  | 'c' :: _ => ([], [], true)
  | 'e' :: rest => (['\x1b'], rest, false)
  | '"' :: rest => (if afterZero then ['\\', '"'] else ['"'], rest, false)
  | c :: rest =>
    if c = 'x' ∧ ((rest.head?.bind (digitOf? 16)).isSome) then
      let (d, rest) := digitsOctet 16 2 rest
      ([d], rest, false)
    else if c = '0' ∧ afterZero then
      let (d, rest) := digitsOctet 8 3 rest
      ([d], rest, false)
    else if (digitOf? 8 c).isSome then
      let (d, rest) := digitsOctet 8 3 cs
      ([d], rest, false)
    else match escapeLetter? c with
      | some d => ([d], rest, false)
      | none => (['\\', c], rest, false)

/-- A text with its backslashes replaced, and whether one of them ends all printing. -/
def unescapeWithin (afterZero : Bool) : Nat → List Char → List Char × Bool
  | 0, _ => ([], false)
  | _ + 1, [] => ([], false)
  | steps + 1, '\\' :: cs =>
    match escapeStep afterZero cs with
    | (text, _, true) => (text, true)
    | (text, rest, false) =>
      let (more, stops) := unescapeWithin afterZero steps rest
      (text ++ more, stops)
  | steps + 1, c :: cs =>
    let (more, stops) := unescapeWithin afterZero steps cs
    (c :: more, stops)

/-- A text with its backslashes replaced, and whether one of them ends all printing. -/
def unescape (afterZero : Bool) (text : String) : String × Bool :=
  let (cs, stops) := unescapeWithin afterZero (text.length + 1) text.toList
  (String.ofList cs, stops)

/-- Words with spaces between them and backslashes replaced, and whether that ends all printing. -/
def unescapeWords : List String → String × Bool
  | [] => ("", false)
  | w :: ws =>
    let (text, stops) := unescape true w
    if stops ∨ ws = [] then (text, stops)
    else
      let (rest, stops) := unescapeWords ws
      (text ++ " " ++ rest, stops)

/-- Prints its arguments. -/
def echo : Program := fun c =>
  let (isOpen, escapes, words) := echoOptions c.args false false
  let (text, stops) := if escapes then unescapeWords words else (" ".intercalate words, false)
  c.finish (text ++ if isOpen || stops then "" else "\n") 0

/-- Prints a line again and again. -/
def yes : Program := fun c => do
  let line := (if c.args.isEmpty then "y" else " ".intercalate c.args) ++ "\n"
  let piece := arrayOfOctets ("".intercalate (List.replicate (8192 / line.length + 1) line))
  repeatPiece c piece maxSteps
where
  /-- Prints a piece again and again. -/
  repeatPiece (c : Call) (piece : ByteArray) : Nat → Action Nat
    | 0 => return 0
    | steps + 1 => do
      match ← writeBytes 1 piece with
      | none => repeatPiece c piece steps
      | some e => c.fail 1 ("standard output: " ++ e.reason)

/-! ### Paths -/

/-- A name without an ending, unless it is all of the name. -/
def dropEnding (ending name : String) : String :=
  if ending ≠ "" ∧ name ≠ ending ∧ name.endsWith ending then
    String.ofList (name.toList.take (name.length - ending.length))
  else name

/-- Prints the last names of paths. -/
def basename : Program := fun c =>
  c.withWords [⟨"a", ["multiple"], .plain⟩, ⟨"s", ["suffix"], .required⟩,
    ⟨"z", ["zero"], .plain⟩] (fun w =>
    let ending := if w.has "z" then "\x00" else "\n"
    let several := w.has "a" || w.has "s"
    match w.operands with
    | [] => c.misused 1 "missing operand"
    | path :: rest =>
      if several then
        c.finish ("".intercalate (w.operands.map fun p =>
          dropEnding ((w.get? "s").getD "") (lastName p) ++ ending)) 0
      else match rest with
        | _ :: extra :: _ => c.misused 1 ("extra operand " ++ cited extra)
        | _ => c.finish (dropEnding (rest.headD "") (lastName path) ++ ending) 0) 1 true

/-- Prints paths without their last names. -/
def dirname : Program := fun c =>
  c.withWords [⟨"z", ["zero"], .plain⟩] (fun w =>
    if w.operands.isEmpty then c.misused 1 "missing operand"
    else c.finish ("".intercalate (w.operands.map fun p =>
      parentOf p ++ (if w.has "z" then "\x00" else "\n"))) 0) 1 true

/-! ### The environment -/

/-- Prints variables. -/
def printenv : Program := fun c =>
  c.withWords [⟨"0", ["null"], .plain⟩] (fun w =>
    let ending := if w.has "0" then "\x00" else "\n"
    if w.operands.isEmpty then c.finish ("".intercalate (c.env.map (· ++ ending))) 0
    else
      let found := w.operands.map c.get?
      c.finish ("".intercalate (found.filterMap fun v => v.map (· ++ ending)))
        (if found.all (·.isSome) then 0 else 1)) 2 true

end LuaBundler.Utility
