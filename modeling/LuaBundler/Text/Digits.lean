/-!
# Digits

Natural numbers written in decimal, and read with a bound: an optional plus sign, then one or more
ASCII digits. Reading goes from left to right and reports the first thing that is wrong.

The hexadecimal digit of a number below sixteen is in lower case; digits in either case have a value.
-/

namespace LuaBundler.Text

/-! ### Decimal numbers -/

/-- A number in decimal. -/
def decimal (n : Nat) : String :=
  String.ofList (Nat.toDigits 10 n)

/-- Why a text is not a number below the bound. -/
inductive NumberError where
  | empty
  | invalidDigit
  | tooLarge
  deriving Repr, DecidableEq

/-- The wording of each cause. -/
def NumberError.message : NumberError → String
  | empty => "cannot parse integer from empty string"
  | invalidDigit => "invalid digit found in string"
  | tooLarge => "number too large to fit in target type"

/-- Adds a digit to a number below the bound. -/
def addDigit (bound : Nat) (n : Nat) (c : Char) : Except NumberError Nat :=
  if !c.isDigit then .error .invalidDigit
  else
    let n := n * 10 + (c.toNat - 48)
    if n < bound then .ok n else .error .tooLarge

/-- The number that a text denotes, below a bound. -/
def readBelow (bound : Nat) (s : String) : Except NumberError Nat :=
  match s.toList with
  | [] => .error .empty
  | ['+'] => .error .invalidDigit
  | '+' :: cs => cs.foldlM (addDigit bound) 0
  | cs => cs.foldlM (addDigit bound) 0

/-- The bound of the 64-bit numbers. -/
def bound64 : Nat := Nat.pow 2 64

/-! ### Hexadecimal digits -/

/-- The hexadecimal digit of a number below sixteen, in lower case. -/
def hexDigit (n : Nat) : Char :=
  if n < 10 then Char.ofNat (n + 48) else Char.ofNat (n + 87)

/-- The value of a hexadecimal digit. -/
def hexValue? (c : Char) : Option Nat :=
  if '0' ≤ c ∧ c ≤ '9' then some (c.toNat - 48)
  else if 'a' ≤ c ∧ c ≤ 'f' then some (c.toNat - 87)
  else if 'A' ≤ c ∧ c ≤ 'F' then some (c.toNat - 55)
  else none

theorem hexValue?_hexDigit {n : Nat} (h : n < 16) : hexValue? (hexDigit n) = some n := by
  decide +revert

end LuaBundler.Text
