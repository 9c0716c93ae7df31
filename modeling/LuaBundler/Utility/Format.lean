import LuaBundler.Utility.Real

/-!
# Formats

A format is a text in which directives stand for arguments: what follows a percent sign says how an
argument is written, how wide, and how exactly. `Directive` is what such a sign means, and the
functions write numbers and texts as it says.
-/

namespace LuaBundler.Utility

open LuaBundler.Text

/-- A number in a directive: given there, or by an argument. -/
inductive Amount where
  | none
  | given (n : Nat)
  | argument

/-- What a percent sign and what follows it mean. -/
structure Directive where
  flags : List Char
  width : Amount
  /-- The number of digits or characters. -/
  places : Amount
  letter : Char

namespace Directive

/-- The flags that a directive may have. -/
def flagLetters : List Char := "#-+ 0".toList

/-- Reads a number of a directive. -/
def readAmount (cs : List Char) : Amount × List Char :=
  match cs with
  | '*' :: rest => (.argument, rest)
  | cs =>
    let ds := cs.takeWhile Char.isDigit
    if ds = [] then (.none, cs)
    else (.given (ds.foldl (fun n c => n * 10 + (c.toNat - 48)) 0), cs.drop ds.length)

/-- Reads what stands between a percent sign and the letter of a directive that may have some
flags. -/
def readStart (letters cs : List Char) : List Char × Amount × Amount × List Char :=
  let flags := cs.takeWhile letters.contains
  let (width, rest) := readAmount (cs.drop flags.length)
  match rest with
  | '.' :: rest =>
    match readAmount rest with
    | (.none, rest) => (flags, width, .given 0, rest)
    | (places, rest) => (flags, width, places, rest)
  | rest => (flags, width, .none, rest)

end Directive

/-- How a value is written: the flags, the least width, and the number of places. -/
structure Layout where
  flags : List Char := []
  width : Nat := 0
  places : Option Nat := none

namespace Layout

/-- A text brought to the width of a layout. -/
def pad (l : Layout) (s : String) : String :=
  let gap := String.ofList (List.replicate (l.width - s.length) ' ')
  if l.flags.contains '-' then s ++ gap else gap ++ s

/-- A sign and digits brought to the width of a layout, with zeros between them if it says so. -/
def padNumber (l : Layout) (canZero : Bool) (sign digits : String) : String :=
  if canZero && l.flags.contains '0' && !l.flags.contains '-' then
    sign ++ RealNumber.padZeros (l.width - sign.length) digits
  else l.pad (sign ++ digits)

/-- The sign of a number. -/
def sign (l : Layout) (isNegative : Bool) : String :=
  if isNegative then "-"
  else if l.flags.contains '+' then "+"
  else if l.flags.contains ' ' then " "
  else ""

/-- Digits with the least number of them that a layout asks for; none of zero if it asks for
none. -/
def leastDigits (l : Layout) (n : Nat) (digits : String) : String :=
  match l.places with
  | some 0 => if n = 0 then "" else digits
  | some p => RealNumber.padZeros p digits
  | none => digits

/-- A whole number. -/
def integer (l : Layout) (n : Int) : String :=
  l.padNumber l.places.isNone (l.sign (n < 0)) (l.leastDigits n.natAbs (decimal n.natAbs))

/-- The digits of a number in a base. -/
def digitsIn (base n : Nat) : String :=
  String.ofList (Nat.toDigits base n)

/-- A number of machine words, in the base of a letter. -/
def word (l : Layout) (letter : Char) (n : Nat) : String :=
  let hash := l.flags.contains '#'
  match letter with
  | 'o' =>
    let digits := l.leastDigits n (digitsIn 8 n)
    let digits := if hash && digits.toList.head? ≠ some '0' then "0" ++ digits else digits
    l.padNumber l.places.isNone "" digits
  | 'x' => l.padNumber l.places.isNone (if hash && n ≠ 0 then "0x" else "")
      (l.leastDigits n (digitsIn 16 n))
  | 'X' => l.padNumber l.places.isNone (if hash && n ≠ 0 then "0X" else "")
      (l.leastDigits n (String.ofList ((digitsIn 16 n).toList.map Char.toUpper)))
  | _ => l.padNumber l.places.isNone "" (l.leastDigits n (decimal n))

/-- A number with a point. -/
def real (l : Layout) (letter : Char) (r : RealNumber) : String :=
  let isFinite := match r with
    | .finite .. => true
    | _ => false
  let body := r.text letter l.places (l.flags.contains '#')
  if isFinite && letter.toLower = 'a' then
    l.padNumber true (l.sign r.isNegative ++ String.ofList (body.toList.take 2))
      (String.ofList (body.toList.drop 2))
  else l.padNumber isFinite (l.sign r.isNegative) body

/-- A text, cut to the number of places. -/
def string (l : Layout) (s : String) : String :=
  l.pad (match l.places with
    | some p => String.ofList (s.toList.take p)
    | none => s)

end Layout

/-! ### Escapes -/

/-- What a letter after a backslash stands for. -/
def escapeLetter? : Char → Option Char
  | 'a' => some (Char.ofNat 7)
  | 'b' => some (Char.ofNat 8)
  | 'e' => some (Char.ofNat 27)
  | 'f' => some (Char.ofNat 12)
  | 'n' => some '\n'
  | 'r' => some '\r'
  | 't' => some '\t'
  | 'v' => some (Char.ofNat 11)
  | '\\' => some '\\'
  | _ => none

/-- The octet of up to so many octal digits at the start of a text, and what follows them. -/
def octalOctet (most : Nat) (cs : List Char) : Char × List Char :=
  let ds := (cs.take most).takeWhile fun c => '0' ≤ c && c ≤ '7'
  (Char.ofNat ((ds.foldl (fun n c => n * 8 + (c.toNat - 48)) 0) % 256), cs.drop ds.length)

end LuaBundler.Utility
