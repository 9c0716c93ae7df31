import LuaBundler.Text.Digits

/-!
# Numbers with a point

Numbers as they are computed with a fixed count of binary digits, and their texts. Reading rounds to
the nearest number, of two to the even one; writing is exact for the number that was read.
-/

namespace LuaBundler.Utility

open LuaBundler.Text

/-- A number with a point: a whole number times a power of two, or none of those. -/
inductive RealNumber where
  | finite (isNegative : Bool) (mantissa : Nat) (exponent : Int)
  | infinite (isNegative : Bool)
  | undefined (isNegative : Bool)

namespace RealNumber

/-- Zero. -/
def zero : RealNumber := finite false 0 0

/-- A whole number. -/
def ofNat (n : Nat) : RealNumber := finite false n 0

/-- The quotient of two numbers, rounded to the nearest number, of two to the even one. -/
def divRound (num den : Nat) : Nat :=
  let q := num / den
  let r := num % den
  if den < 2 * r ∨ (2 * r = den ∧ q % 2 = 1) then q + 1 else q

/-- The exponent by which a quotient is scaled so that it has so many binary digits, or one more. -/
def scaleOf (digits num den : Nat) : Int :=
  (Nat.log2 num : Int) - Nat.log2 den - digits

/-- A quotient scaled by a power of two and rounded. -/
def scaled (num den : Nat) (exponent : Int) : Nat :=
  if 0 ≤ exponent then divRound num (den * Nat.pow 2 exponent.toNat)
  else divRound (num * Nat.pow 2 (-exponent).toNat) den

/-- The number with so many binary digits that is nearest to a quotient. -/
def ofQuotient (digits : Nat) (isNegative : Bool) (num den : Nat) : RealNumber :=
  if num = 0 then finite isNegative 0 0
  else
    let e := scaleOf digits num den
    let e := if Nat.pow 2 digits ≤ scaled num den e then e + 1 else e
    let e := if digits = 53 then max e (-1074) else e
    let m := scaled num den e
    if digits = 53 ∧ 971 < e then infinite isNegative else finite isNegative m e

/-- The digits of a base at the start of a text, their number and how many they are. -/
def readDigits (isDigit : Char → Bool) (value : Char → Nat) (base : Nat) (cs : List Char) :
    Nat × Nat × List Char :=
  let ds := cs.takeWhile isDigit
  (ds.foldl (fun n c => n * base + value c) 0, ds.length, cs.drop ds.length)

/-- Reads an exponent after its letter, if there is one. -/
def readExponent (letters : List Char) (cs : List Char) : Int × List Char :=
  match cs with
  | e :: rest =>
    if letters.contains e then
      let (isNegative, digits) := match rest with
        | '-' :: ds => (true, ds)
        | '+' :: ds => (false, ds)
        | ds => (false, ds)
      match readDigits Char.isDigit (·.toNat - 48) 10 digits with
      | (_, 0, _) => (0, cs)
      | (n, _, rest) => (if isNegative then -(n : Int) else n, rest)
    else (0, cs)
  | [] => (0, cs)

/-- The value of a digit, in any base up to sixteen. -/
def hexValue (c : Char) : Nat :=
  if c.isDigit then c.toNat - 48 else c.toLower.toNat - 87

/-- Whether a character is a digit in base sixteen. -/
def isHexDigit (c : Char) : Bool :=
  c.isDigit || ('a' ≤ c.toLower && c.toLower ≤ 'f')

/-- The largest exponent of ten that is told from a larger one. -/
def maxPower : Int := 5000

/-- Reads a number without its sign. -/
def readUnsigned? (digits : Nat) (isNegative : Bool) (cs : List Char) : Option (RealNumber × List Char) :=
  let lower := cs.map Char.toLower
  if "infinity".toList.isPrefixOf lower then some (infinite isNegative, cs.drop 8)
  else if "inf".toList.isPrefixOf lower then some (infinite isNegative, cs.drop 3)
  else if "nan".toList.isPrefixOf lower then some (undefined isNegative, cs.drop 3)
  else
    let isHex := "0x".toList.isPrefixOf lower && (cs.drop 2).any isHexDigit
    let (isDigit, base, body) := if isHex then (isHexDigit, 16, cs.drop 2) else (Char.isDigit, 10, cs)
    let (whole, size, rest) := readDigits isDigit hexValue base body
    let (part, places, rest') := match rest with
      | '.' :: ds => readDigits isDigit hexValue base ds
      | _ => (0, 0, rest)
    if size + places = 0 then none
    else
      let rest := match rest with
        | '.' :: _ => rest'
        | _ => rest
      let num := whole * Nat.pow base places + part
      let (power, rest) := readExponent (if isHex then ['p', 'P'] else ['e', 'E']) rest
      let power := max (-maxPower) (min maxPower power)
      let scale := if isHex then 2 else 10
      let value := if 0 ≤ power then
          ofQuotient digits isNegative (num * Nat.pow scale power.toNat) (Nat.pow base places)
        else ofQuotient digits isNegative num (Nat.pow base places * Nat.pow scale (-power).toNat)
      some (value, rest)

/-- Reads a number with so many binary digits at the start of a text, and gives what follows it. -/
def read? (digits : Nat) (cs : List Char) : Option (RealNumber × List Char) :=
  match cs.dropWhile fun c => c = ' ' || (9 ≤ c.toNat && c.toNat ≤ 13) with
  | '-' :: cs => readUnsigned? digits true cs
  | '+' :: cs => readUnsigned? digits false cs
  | cs => readUnsigned? digits false cs

/-! ### Arithmetic -/

/-- Whether a number has a minus sign. -/
def isNegative : RealNumber → Bool
  | finite n _ _ => n
  | infinite n => n
  | undefined n => n

/-- A finite number as a quotient. -/
def quotient? : RealNumber → Option (Int × Nat)
  | finite n m e =>
    let num := m * Nat.pow 2 e.toNat
    some (if n then -(num : Int) else num, Nat.pow 2 (-e).toNat)
  | _ => none

/-- The number nearest to a quotient. -/
def ofRatio (digits : Nat) (num : Int) (den : Nat) : RealNumber :=
  ofQuotient digits (num < 0) num.natAbs den

/-- Whether a number is less than another one. -/
def less (a b : RealNumber) : Bool :=
  match a.quotient?, b.quotient? with
  | some (n, d), some (m, e) => n * e < m * d
  | _, _ =>
    match a, b with
    | infinite true, infinite true => false
    | infinite true, _ => true
    | _, infinite false => match a with
      | infinite false => false
      | _ => true
    | _, _ => false

/-! ### Texts -/

/-- Digits with zeros before them. -/
def padZeros (width : Nat) (s : String) : String :=
  String.ofList (List.replicate (width - s.length) '0') ++ s

/-- A number of digits with a point before the last ones. -/
def pointed (places n : Nat) (keepsPoint : Bool) : String :=
  let s := padZeros (places + 1) (decimal n)
  let whole := String.ofList (s.toList.take (s.length - places))
  if places = 0 then whole ++ (if keepsPoint then "." else "")
  else whole ++ "." ++ String.ofList (s.toList.drop (s.length - places))

/-- A number times a power of ten, rounded to a whole number. -/
def timesTen (m : Nat) (e : Int) (power : Int) : Nat :=
  let num := m * Nat.pow 2 e.toNat * Nat.pow 10 power.toNat
  let den := Nat.pow 2 (-e).toNat * Nat.pow 10 (-power).toNat
  divRound num den

/-- A number with so many places after the point. -/
def fixedText (m : Nat) (e : Int) (places : Nat) (keepsPoint : Bool) : String :=
  pointed places (timesTen m e places) keepsPoint

/-- The power of ten of the first digit of a number that is written with so many places. -/
def powerOf (m : Nat) (e : Int) (places : Nat) : Int :=
  let guess : Int := ((Nat.log2 m : Int) + e) * 30103 / 100000
  let digitsAt (p : Int) : Nat := (decimal (timesTen m e ((places : Int) - p))).length
  let p := if digitsAt guess = places + 1 then guess else guess + 1
  if digitsAt p = places + 1 then p else if places + 1 < digitsAt p then p + 1 else p - 1

/-- An exponent as it is written. -/
def exponentText (letter : String) (least : Nat) (p : Int) : String :=
  letter ++ (if p < 0 then "-" else "+") ++ padZeros least (decimal p.natAbs)

/-- A number with one digit before the point, so many places after it, and an exponent. -/
def scientificText (m : Nat) (e : Int) (places : Nat) (keepsPoint : Bool) : String :=
  if m = 0 then pointed places 0 keepsPoint ++ exponentText "e" 2 0
  else
    let p := powerOf m e places
    pointed places (timesTen m e ((places : Int) - p)) keepsPoint ++ exponentText "e" 2 p

/-- A text with a point, without the zeros at its end, and without a point at its end. -/
def dropZeros (s : String) : String :=
  if s.toList.contains '.' then
    let cs := s.toList.reverse.dropWhile (· = '0')
    String.ofList (match cs with
      | '.' :: rest => rest.reverse
      | cs => cs.reverse)
  else s

/-- A number with so many digits that matter, in the shorter of both forms. -/
def generalText (m : Nat) (e : Int) (digits : Nat) (keepsZeros : Bool) : String :=
  let digits := max digits 1
  let p := if m = 0 then 0 else powerOf m e (digits - 1)
  if p < -4 ∨ (digits : Int) ≤ p then
    let body := pointed (digits - 1) (timesTen m e ((digits : Int) - 1 - p)) keepsZeros
    (if keepsZeros then body else dropZeros body) ++ exponentText "e" 2 p
  else
    let body := fixedText m e ((digits : Int) - 1 - p).toNat keepsZeros
    if keepsZeros then body else dropZeros body

/-- The digit of a value in base sixteen. -/
def hexDigit (n : Nat) : Char :=
  if n < 10 then Char.ofNat (48 + n) else Char.ofNat (87 + n)

/-- The digits of a number in base sixteen. -/
def hexDigits : Nat → Nat → List Char
  | 0, _ => []
  | places + 1, n => hexDigits places (n / 16) ++ [hexDigit (n % 16)]

/-- A number in base sixteen. Before the point is one binary digit, or four of a number that has
sixty-four of them. -/
def hexText (m : Nat) (e : Int) : String :=
  if m = 0 then "0x0p+0"
  else
    let (size, lead) := if Nat.log2 m = 63 then (15, 60) else (13, 52)
    let shift := lead - Nat.log2 m
    let m := m * Nat.pow 2 shift
    let below := hexDigits size (m % Nat.pow 2 lead)
    let digits := String.ofList (below.reverse.dropWhile (· = '0')).reverse
    "0x" ++ String.singleton (hexDigit (m / Nat.pow 2 lead)) ++
      (if digits = "" then "" else "." ++ digits) ++ exponentText "p" 1 (e - shift + lead)

/-- A number without its sign, as a letter says. -/
def text (letter : Char) (places : Option Nat) (isAlternative : Bool) (r : RealNumber) : String :=
  let body := match r with
    | infinite _ => "inf"
    | undefined _ => "nan"
    | finite _ m e =>
      match letter.toLower with
      | 'f' => fixedText m e (places.getD 6) isAlternative
      | 'e' => scientificText m e (places.getD 6) isAlternative
      | 'a' => hexText m e
      | _ => generalText m e (places.getD 6) isAlternative
  if letter.isUpper then String.ofList (body.toList.map Char.toUpper) else body

end RealNumber

end LuaBundler.Utility
