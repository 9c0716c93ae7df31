import LuaBundler.Utility.Format

/-!
# Values of record programs

A value is a number or a text. A text that comes from outside counts as a number if it looks like
one, and a variable that was never set counts as both the empty text and zero. Numbers become texts
through formats.

Texts are octet texts.
-/

namespace LuaBundler.Utility.Records

open LuaBundler.Text

/-! ### Numbers -/

/-- The number that a machine number is. -/
def realOf (x : Float) : RealNumber :=
  let bits := x.toBits.toNat
  let isNegative := Nat.pow 2 63 ≤ bits
  let exponent := bits / Nat.pow 2 52 % 2048
  let fraction := bits % Nat.pow 2 52
  if exponent = 2047 then
    if fraction = 0 then .infinite isNegative else .undefined true
  else if exponent = 0 then .finite isNegative fraction (-1074)
  else .finite isNegative (Nat.pow 2 52 + fraction) (exponent - 1075)

/-- The machine number that is nearest to a number. -/
def machineNumber (r : RealNumber) : Float :=
  match r with
  | .finite isNegative m e =>
    let x := (Float.ofNat m).scaleB e
    if isNegative then -x else x
  | .infinite isNegative => if isNegative then -1.0 / 0.0 else 1.0 / 0.0
  | .undefined _ => 0.0 / 0.0

/-- The whole part of a number, and whether that is all of it. -/
def wholePart? (x : Float) : Option (Int × Bool) :=
  match realOf x with
  | .finite isNegative m e =>
    let unit := Nat.pow 2 (-e).toNat
    let whole : Int := if 0 ≤ e then (m * Nat.pow 2 e.toNat : Nat) else (m / unit : Nat)
    some (if isNegative then -whole else whole, 0 ≤ e || m % unit = 0)
  | _ => none

/-- The whole part of a number within bounds. -/
def wholeWithin (least most : Int) (x : Float) : Int :=
  match wholePart? x with
  | some (n, _) => max least (min most n)
  | none => if 0.0 < x then most else least

/-- The whole part of a number as indices have it. -/
def indexOf (x : Float) : Int :=
  wholeWithin (-2147483647) 2147483647 x

/-- The remainder of a division, with the sign of what is divided. -/
def remainder (x y : Float) : Float :=
  match realOf x, realOf y with
  | .finite isNegative m e, .finite _ n f =>
    if n = 0 then 0.0 / 0.0
    else
      let least := min e f
      let a := m * Nat.pow 2 (e - least).toNat
      let b := n * Nat.pow 2 (f - least).toNat
      machineNumber (.ofQuotient 53 isNegative (a % b * Nat.pow 2 least.toNat)
        (Nat.pow 2 (-least).toNat))
  | .finite .., .infinite _ => x
  | _, _ => 0.0 / 0.0

/-! ### Texts of numbers -/

/-- Whether a character is a space. -/
def isSpace (c : Char) : Bool :=
  " \t\n\x0b\x0c\r".toList.contains c

/-- The number at the start of a text after spaces, and what follows it. -/
def readNumber? (s : String) : Option (Float × List Char) :=
  (RealNumber.read? 53 (s.toList.dropWhile isSpace)).map fun (r, rest) => (machineNumber r, rest)

/-- The number at the start of a text: zero if there is none. -/
def numberAtStart (s : String) : Float :=
  ((readNumber? s).map (·.1)).getD 0.0

/-- The number that a text is, if it is one. -/
def numberOf? (s : String) : Option Float :=
  (readNumber? s).bind fun (x, rest) => if rest.all isSpace then some x else none

/-- The text of a whole number that is not too large. -/
def wholeText? (x : Float) : Option String :=
  match wholePart? x with
  | some (n, true) =>
    if -9223372036854775808 ≤ n ∧ n ≤ 18446744073709551616 then
      some (if n < 0 then "-" ++ decimal n.natAbs else decimal (min n.natAbs 18446744073709551615))
    else none
  | _ => none

/-! ### Values -/

/-- A value. -/
inductive Value where
  | absent
  | number (x : Float)
  | text (s : String)
  /-- A text from outside. -/
  | outside (s : String)

namespace Value

/-- A truth value. -/
def ofBool (b : Bool) : Value :=
  .number (if b then 1.0 else 0.0)

/-- A whole number. -/
def ofInt (n : Int) : Value :=
  .number (Float.ofInt n)

/-- The number of a value. -/
def toNumber : Value → Float
  | absent => 0.0
  | number x => x
  | text s | outside s => numberAtStart s

/-- The number that a value counts as, if it counts as one. -/
def asNumber? : Value → Option Float
  | absent => some 0.0
  | number x => some x
  | text _ => none
  | outside s => numberOf? s

/-- Whether a value holds. -/
def holds : Value → Bool
  | absent => false
  | number x => x != 0.0
  | text s => s != ""
  | outside s => match numberOf? s with
    | some x => x != 0.0
    | none => s != ""

end Value

/-! ### Formats -/

/-- What is wrong with the use of a format. -/
inductive FormatFlaw where
  | tooFew
  /-- The directive of a number, counted from one, means nothing. -/
  | improper (number : Nat)

/-- What a format says of a flaw. -/
def FormatFlaw.message (f : FormatFlaw) (caller format : String) : String :=
  let place := caller ++ "(\"" ++ format ++ "\")"
  match f with
  | .tooFew => "not enough arguments passed to " ++ place
  | .improper n => "improper conversion(number " ++ decimal n ++ ") in " ++ place

/-- How the text of a value is made: with the format for numbers. -/
abbrev TextRule := Value → String

/-- The text of a value as a letter writes it. -/
def writeAs? (textOf : TextRule) (l : Layout) (letter : Char) (v : Value) : Option String :=
  if letter = 's' then some (l.string (textOf v))
  else if letter = 'c' then
    match v, v.asNumber? with
    | .text s, _ => some (l.pad (String.singleton (s.toList.headD '\x00')))
    | _, some x => some (l.pad (String.singleton (Char.ofNat (indexOf x % 256).toNat)))
    | _, none => some (l.pad (String.singleton ((textOf v).toList.headD '\x00')))
  else if "di".toList.contains letter then
    some (l.integer (wholeWithin (-9223372036854775807) 18446744073709551615 v.toNumber))
  else if "oxXu".toList.contains letter then
    let n := wholeWithin (-9223372036854775807) 18446744073709551615 v.toNumber
    some (l.word letter (n % 18446744073709551616).toNat)
  else if "eEfFgG".toList.contains letter then some (l.real letter (realOf v.toNumber))
  else none

/-- The number of an amount, from the next argument if it says so. -/
def takeAmount (a : Amount) (args : List Value) : Option (Option Int × List Value) :=
  match a, args with
  | .none, args => some (none, args)
  | .given n, args => some (some (n : Int), args)
  | .argument, v :: args => some (some (indexOf v.toNumber), args)
  | .argument, [] => none

/-- Writes arguments as a format says; where that does not work, gives what was written before. -/
def formatWithin (textOf : TextRule) :
    Nat → Nat → List Char → List Value → String → String × Option FormatFlaw
  | 0, _, _, _, written => (written, none)
  | _ + 1, _, [], _, written => (written, none)
  | steps + 1, count, '%' :: '%' :: cs, args, written =>
    formatWithin textOf steps count cs args (written.push '%')
  | steps + 1, count, '%' :: cs, args, written =>
    let (flags, width, places, rest) := Directive.readStart Directive.flagLetters cs
    let rest := rest.dropWhile "hlLqjzt".toList.contains
    match takeAmount width args with
    | none => (written, some .tooFew)
    | some (width?, args) =>
      match takeAmount places args with
      | none => (written, some .tooFew)
      | some (places?, args) =>
        let width := width?.getD 0
        let layout : Layout := {
          flags := if width < 0 then '-' :: flags else flags
          width := width.natAbs
          places := places?.bind fun n => if n < 0 then none else some n.toNat }
        match rest with
        | [] => (written, some (.improper count))
        | letter :: rest =>
          if !"cdiouxXeEfFgGs".toList.contains letter then (written, some (.improper count))
          else match args with
            | [] => (written, some .tooFew)
            | v :: args =>
              formatWithin textOf steps (count + 1) rest args
                (written ++ (writeAs? textOf layout letter v).getD "")
  | steps + 1, count, c :: cs, args, written =>
    formatWithin textOf steps count cs args (written.push c)

/-- Writes arguments as a format says; where that does not work, gives what was written before. -/
def formatValues (textOf : TextRule) (format : String) (args : List Value) :
    String × Option FormatFlaw :=
  formatWithin textOf (format.length + 1) 1 format.toList args ""

/-- The text of a value, with a format for numbers that are not whole. -/
def Value.toText (format : String) : Value → String
  | absent => ""
  | text s | outside s => s
  | number x =>
    match wholeText? x with
    | some s => s
    | none => (formatValues (fun _ => "") format [number x]).1

end LuaBundler.Utility.Records
