import LuaBundler.Utility.Basic

/-!
# Amounts

An amount is a number with a unit after it: so many blocks, kilobytes or the like. Which units there
are, and how large or small an amount may be, depends on what it is an amount of.
-/

namespace LuaBundler.Utility

/-- What is wrong with an amount. -/
inductive AmountFault where
  | malformed
  | tooLarge
  | outOfRange
  deriving DecidableEq

/-- What is said of an amount with a fault. -/
def AmountFault.message (what text : String) (f : AmountFault) : String :=
  "invalid " ++ what ++ ": " ++ cited text ++ (match f with
    | .malformed => ""
    | .tooLarge => ": Value too large for defined data type"
    | .outOfRange => ": Numerical result out of range")

/-- The largest number of a machine word without a sign. -/
def largestWord : Nat := Nat.pow 2 64 - 1

/-- How amounts of something are written: the letters of their units, whether they have signs, and
the bounds that they are in. -/
structure AmountStyle where
  units : String := ""
  isSigned : Bool := false
  least : Int := 0
  most : Int := (largestWord : Int)

namespace AmountStyle

/-- The letters of the powers of a thousand. -/
def powers : List Char := "KMGTPEZYRQ".toList

/-- What a unit multiplies by. -/
def unit? (s : AmountStyle) (cs : List Char) : Option Nat :=
  match cs with
  | [] => some 1
  | c :: rest =>
    if !s.units.toList.contains c then none
    else
      let base? := match rest with
        | [] | ['i', 'B'] => some 1024
        | ['B'] | ['D'] => some 1000
        | _ => none
      let base? := if rest = [] || s.units.toList.contains '0' then base? else none
      match c, rest with
      | 'b', [] => some 512
      | 'c', [] => some 1
      | 'w', [] => some 2
      | 'B', [] => some 1024
      | _, _ => do
        let i ← powers.findIdx? (· == (if c = 'k' then 'K' else if c = 'm' then 'M' else c))
        return Nat.pow (← base?) (i + 1)

/-- Reads an amount. A unit alone is one of it. -/
def read (s : AmountStyle) (text : String) : Except AmountFault Int :=
  let cs := text.toList.dropWhile fun c => c = ' ' || (9 ≤ c.toNat && c.toNat ≤ 13)
  let (isNegative, cs) := match cs with
    | '-' :: rest => (true, rest)
    | '+' :: rest => (false, rest)
    | _ => (false, cs)
  let ds := cs.takeWhile Char.isDigit
  let rest := cs.drop ds.length
  if (isNegative && !s.isSigned) || (ds = [] && (rest = [] || isNegative)) then .error .malformed
  else match s.unit? rest with
    | none => .error .malformed
    | some factor =>
      let count := if ds = [] then 1 else (natural? (String.ofList ds)).getD 0
      let n : Int := if isNegative then -((count * factor : Nat) : Int) else ((count * factor : Nat) : Int)
      let widest : Int := if s.isSigned then ((largestWord / 2 : Nat) : Int) else (largestWord : Int)
      if widest < n ∨ n < -widest - 1 then .error .tooLarge
      else if n < s.least then .error .outOfRange
      else if s.most < n then .error (if s.most = 2147483647 then .tooLarge else .outOfRange)
      else .ok n

end AmountStyle

/-- Amounts of lines or bytes. -/
def sizes : AmountStyle := { units := "bkKmMGTPEZYRQ0" }

/-- A number that is read as an amount without units, and within bounds. -/
def readWithinBounds (what : String) (least : Int) (text : String) : Except String Int :=
  match ({ isSigned := true, least, most := 2147483647 } : AmountStyle).read text with
  | .ok n => .ok n
  | .error f => .error (f.message what text)

end LuaBundler.Utility
