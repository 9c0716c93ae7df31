/-!
# Modes of files

The permissions of files as numbers and as texts of changes: who, how, and which.
-/

namespace LuaBundler.Utility.Mode

/-- How a step changes permissions. -/
inductive Action where
  | add
  | remove
  | assign
  deriving DecidableEq

/-- A step of a change: whose permissions, how, and which letters or bits. Without anybody named, all
are meant, except for what a mask takes from letters. -/
structure Step where
  who : List Char
  action : Action
  letters : List Char
  bits? : Option Nat := none

/-- The action of a character. -/
def action? : Char → Option Action
  | '+' => some .add
  | '-' => some .remove
  | '=' => some .assign
  | _ => none

/-- The mode that octal digits spell. -/
def octal? (cs : List Char) : Option Nat :=
  if cs ≠ [] ∧ cs.all (fun c => '0' ≤ c && c ≤ '7') then
    let n := cs.foldl (fun n c => n * 8 + (c.toNat - 48)) 0
    if n ≤ 0o7777 then some n else none
  else none

/-- Reads the actions after whose permissions they change. An action has octal digits, if nobody was
named; someone whose permissions are taken; or letters. -/
def readActions (who : List Char) : Nat → List Char → Option (List Step)
  | 0, _ => none
  | steps + 1, cs =>
    match cs with
    | [] => some []
    | c :: cs => do
      let action ← action? c
      let digits := cs.takeWhile Char.isDigit
      if digits ≠ [] then
        if who ≠ [] || digits.length < cs.length then none
        else return [⟨who, action, [], some (← octal? digits)⟩]
      else
        let letters := match cs with
          | 'u' :: _ | 'g' :: _ | 'o' :: _ => cs.take 1
          | _ => cs.takeWhile fun c => "rwxXst".toList.contains c
        let rest ← readActions who steps (cs.drop letters.length)
        return ⟨who, action, letters, none⟩ :: rest

/-- Reads one clause of a change. -/
def readClause (cs : List Char) : Option (List Step) :=
  let who := cs.takeWhile fun c => "ugoa".toList.contains c
  match cs.drop who.length with
  | [] => none
  | rest => readActions who (rest.length + 1) rest

/-- The texts between commas. -/
def clauses : List Char → List (List Char)
  | [] => [[]]
  | c :: cs =>
    if c = ',' then [] :: clauses cs
    else match clauses cs with
      | first :: rest => (c :: first) :: rest
      | [] => [[c]]

/-- Reads a change of permissions. -/
def change? (cs : List Char) : Option (List Step) :=
  ((clauses cs).mapM readClause).map List.flatten

/-- The bits of a letter, for everybody. -/
def letterBits (isDir : Bool) (mode : Nat) : Char → Nat
  | 'r' => 0o444
  | 'w' => 0o222
  | 'x' => 0o111
  | 'X' => if isDir || mode &&& 0o111 ≠ 0 then 0o111 else 0
  | 'u' => (mode / 64 % 8) * 0o111
  | 'g' => (mode / 8 % 8) * 0o111
  | 'o' => (mode % 8) * 0o111
  | 's' => 0o6000
  | 't' => 0o1000
  | _ => 0

/-- The bits that belong to someone. -/
def whoBits : Char → Nat
  | 'u' => 0o4700
  | 'g' => 0o2070
  | 'o' => 0o1007
  | _ => 0o7777

/-- A mode after one step. -/
def applyStep (isDir : Bool) (mask mode : Nat) (s : Step) : Nat :=
  let who := if s.who = [] then 0o7777 &&& (0o7777 ^^^ mask)
    else s.who.foldl (fun n c => n ||| whoBits c) 0
  let bits := s.bits?.getD ((s.letters.foldl (fun n c => n ||| letterBits isDir mode c) 0) &&& who)
  match s.action with
  | .add => mode ||| bits
  | .remove => mode &&& (0o7777 ^^^ bits)
  | .assign =>
    let cleared := (if s.who = [] then 0o7777 else who) &&&
      (if isDir && s.bits?.isNone then 0o777 else 0o7777)
    (mode &&& (0o7777 ^^^ cleared)) ||| bits

/-- A mode after a change. -/
def apply (steps : List Step) (isDir : Bool) (mask mode : Nat) : Nat :=
  steps.foldl (applyStep isDir mask) mode

/-- The mode that a text means for something that has a mode. Fewer than five digits leave the special
bits of a directory as they are. -/
def ofText? (text : String) (isDir : Bool) (mask mode : Nat) : Option Nat :=
  match octal? text.toList with
  | some n => some (if isDir && text.length < 5 then n ||| (mode &&& 0o6000) else n)
  | none => (change? text.toList).map fun steps => apply steps isDir mask mode

/-- Four octal digits. -/
def digits (mode : Nat) : String :=
  let ds := String.ofList (Nat.toDigits 8 mode)
  String.ofList (List.replicate (4 - ds.length) '0') ++ ds

/-- The three letters of three bits, with a letter of its own if a further bit is set. -/
def triple (bits : Nat) (isSpecial : Bool) (special : Char) : String :=
  String.ofList [if bits &&& 4 ≠ 0 then 'r' else '-', if bits &&& 2 ≠ 0 then 'w' else '-',
    if isSpecial then (if bits &&& 1 ≠ 0 then special else special.toUpper)
    else if bits &&& 1 ≠ 0 then 'x' else '-']

/-- A mode in nine letters. -/
def letters (mode : Nat) : String :=
  triple (mode / 64 % 8) (mode &&& 0o4000 ≠ 0) 's' ++
    triple (mode / 8 % 8) (mode &&& 0o2000 ≠ 0) 's' ++
    triple (mode % 8) (mode &&& 0o1000 ≠ 0) 't'

end LuaBundler.Utility.Mode
