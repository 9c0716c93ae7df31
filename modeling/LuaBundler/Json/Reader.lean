import LuaBundler.Json.Value

/-!
# Reading JSON

Strict JSON: no leading zero, no lone surrogate, no raw control character in a string, nothing after
the value but white space. Arrays and objects nest at most 127 deep, and a number that is read as
an infinite double is refused.

Text is cut into tokens first (`lex`), then the tokens are read as a value (`value?`).
-/

namespace LuaBundler.Json

open Text

/-! ### The magnitude of a number

A number is read as a double in two steps. The digits that fit in 64 bits make a significand, and
the others count only by their places; then the significand, rounded to a double, is multiplied by
the double nearest to the power of ten that is left. A number is out of range if that product
rounds to infinity. -/

/-- A significand of 64 bits, and the power of ten that it is multiplied by. -/
structure Scaled where
  significand : Nat
  exponent : Int
  deriving Repr, DecidableEq

namespace Scaled

/-- The least number that is no significand. -/
def bound : Nat := Nat.pow 2 64

/-- The value of a decimal digit. -/
def digitValue (c : Char) : Nat :=
  c.toNat - 48

/-- Takes in the digits before the point: from the first that does not fit on, each is a place. -/
def addWhole (s : Scaled) : List Char → Scaled
  | [] => s
  | d :: ds =>
    let next := s.significand * 10 + digitValue d
    if next < bound then addWhole { s with significand := next } ds
    else { s with exponent := s.exponent + (d :: ds).length }

/-- Takes in the digits after the point, up to the first that does not fit. -/
def addFraction (s : Scaled) : List Char → Scaled
  | [] => s
  | d :: ds =>
    let next := s.significand * 10 + digitValue d
    if next < bound then addFraction ⟨next, s.exponent - 1⟩ ds else s

/-- What the digits of a number, and the power of ten after them, are read as. -/
def ofDigits (whole part : List Char) (power : Int) : Scaled :=
  let s := (addWhole ⟨0, 0⟩ whole).addFraction part
  { s with exponent := s.exponent + power }

theorem significand_addWhole_lt {s : Scaled} (h : s.significand < bound) (ds : List Char) :
    (s.addWhole ds).significand < bound := by
  fun_induction addWhole s ds with
  | case1 => exact h
  | case2 s d ds next hlt ih => exact ih hlt
  | case3 => exact h

theorem significand_addFraction_lt {s : Scaled} (h : s.significand < bound) (ds : List Char) :
    (s.addFraction ds).significand < bound := by
  fun_induction addFraction s ds with
  | case1 => exact h
  | case2 s d ds next hlt ih => exact ih hlt
  | case3 => exact h

/-- Whatever the digits are, the significand has 64 bits. -/
theorem significand_ofDigits_lt (whole part : List Char) (power : Int) :
    (ofDigits whole part power).significand < bound :=
  significand_addFraction_lt (significand_addWhole_lt (by decide) _) _

/-! ### As doubles -/

/-- The number of binary digits of a double. -/
def precision : Nat := 53

/-- The double nearest to a natural number, and of two the one that is even. -/
def nearest (n : Nat) : Nat :=
  let unit := Nat.pow 2 (n.log2 + 1 - precision)
  let below := n / unit
  let rest := n % unit
  if unit < 2 * rest ∨ (2 * rest = unit ∧ below % 2 = 1) then (below + 1) * unit else below * unit

/-- The least number that rounds to infinity as a double. -/
def overflowBound : Nat := Nat.pow 2 1024 - Nat.pow 2 970

/-- The greatest power of ten that is a double. -/
def maxPower : Int := 308

/-- Whether the number is a finite double. -/
def isFinite (s : Scaled) : Bool :=
  if s.significand = 0 ∨ s.exponent ≤ 0 then true
  else if maxPower < s.exponent then false
  else nearest s.significand * nearest (Nat.pow 10 s.exponent.toNat) < overflowBound

end Scaled

/-! ### Strings -/

/-- Four hexadecimal digits, and what follows. -/
def hex4? : List Char → Option (Nat × List Char)
  | a :: b :: c :: d :: rest => do
    let a ← hexValue? a
    let b ← hexValue? b
    let c ← hexValue? c
    let d ← hexValue? d
    return (((a * 16 + b) * 16 + c) * 16 + d, rest)
  | _ => none

/-- The character of an escape whose `\u` has been read; a surrogate needs its partner. -/
def unicodeEscape? (cs : List Char) : Option (Char × List Char) := do
  let (high, rest) ← hex4? cs
  if 0xD800 ≤ high ∧ high < 0xDC00 then
    match rest with
    | '\\' :: 'u' :: rest =>
      let (low, rest) ← hex4? rest
      if 0xDC00 ≤ low ∧ low < 0xE000 then
        return (Char.ofNat (0x10000 + (high - 0xD800) * 0x400 + (low - 0xDC00)), rest)
      else none
    | _ => none
  else if 0xDC00 ≤ high ∧ high < 0xE000 then none
  else return (Char.ofNat high, rest)

/-- The character of an escape whose backslash has been read. -/
def escape? : List Char → Option (Char × List Char)
  | '"' :: rest => some ('"', rest)
  | '\\' :: rest => some ('\\', rest)
  | '/' :: rest => some ('/', rest)
  | 'b' :: rest => some ('\x08', rest)
  | 'f' :: rest => some ('\x0c', rest)
  | 'n' :: rest => some ('\n', rest)
  | 'r' :: rest => some ('\r', rest)
  | 't' :: rest => some ('\t', rest)
  | 'u' :: rest => unicodeEscape? rest
  | _ => none

theorem length_hex4? {cs rest : List Char} {n : Nat} (h : hex4? cs = some (n, rest)) :
    rest.length < cs.length := by
  unfold hex4? at h
  split at h
  · simp only [Option.pure_def, Option.bind_eq_bind, Option.bind_eq_some_iff, Option.some.injEq,
      Prod.mk.injEq] at h
    obtain ⟨_, _, _, _, _, _, _, _, _, rfl⟩ := h
    simp only [List.length_cons]
    omega
  · simp at h

theorem length_unicodeEscape? {cs rest : List Char} {c : Char}
    (h : unicodeEscape? cs = some (c, rest)) : rest.length < cs.length := by
  unfold unicodeEscape? at h
  simp only [Option.pure_def, Option.bind_eq_bind, Option.bind_eq_some_iff] at h
  obtain ⟨⟨high, tail⟩, h1, h⟩ := h
  have hlen := length_hex4? h1
  split at h
  · split at h
    · rename_i heq
      rw [show tail = _ from heq] at hlen
      simp only [Option.bind_eq_some_iff] at h
      obtain ⟨⟨low, tail'⟩, h2, h⟩ := h
      have := length_hex4? h2
      split at h
      · simp only [Option.some.injEq, Prod.mk.injEq] at h
        obtain ⟨-, rfl⟩ := h
        simp only [List.length_cons] at hlen
        omega
      · simp at h
    · simp at h
  · split at h
    · simp at h
    · simp only [Option.some.injEq, Prod.mk.injEq] at h
      obtain ⟨-, rfl⟩ := h
      exact hlen

theorem length_escape? {cs rest : List Char} {c : Char} (h : escape? cs = some (c, rest)) :
    rest.length < cs.length := by
  unfold escape? at h
  split at h
  case h_9 => exact Nat.lt_succ_of_lt (length_unicodeEscape? h)
  case h_10 => simp at h
  all_goals
    simp only [Option.some.injEq, Prod.mk.injEq] at h
    obtain ⟨-, rfl⟩ := h
    simp

/-- The characters of a string whose opening quote has been read, and what follows its closing
quote. -/
def stringBody? (cs : List Char) : Option (List Char × List Char) :=
  match cs with
  | [] => none
  | '"' :: rest => some ([], rest)
  | '\\' :: rest =>
    match h : escape? rest with
    | some (c, tail) =>
      have := length_escape? h
      (stringBody? tail).map fun (body, after) => (c :: body, after)
    | none => none
  | c :: rest =>
    if c.toNat < 0x20 then none
    else (stringBody? rest).map fun (body, after) => (c :: body, after)
termination_by cs.length

/-! ### Numbers -/

/-- The decimal digits at the start of a text, and what follows. -/
def digits (cs : List Char) : List Char × List Char :=
  (cs.takeWhile Char.isDigit, cs.dropWhile Char.isDigit)

/-- The number that decimal digits denote. -/
def ofDigits (ds : List Char) : Nat :=
  ds.foldl (fun n d => n * 10 + (d.toNat - 48)) 0

/-- The fraction of a number, after its point: at least one digit. -/
def fraction? : List Char → Option (List Char × List Char)
  | '.' :: cs =>
    match digits cs with
    | ([], _) => none
    | found => some found
  | cs => some ([], cs)

/-- The digits of an exponent: at least one. -/
def exponentDigits? (cs : List Char) : Option (Nat × List Char) :=
  match digits cs with
  | ([], _) => none
  | (ds, rest) => some (ofDigits ds, rest)

/-- The exponent of a number, if it is written. -/
def exponent? : List Char → Option (Option Int × List Char)
  | c :: cs =>
    if c = 'e' ∨ c = 'E' then
      match cs with
      | '-' :: cs => (exponentDigits? cs).map fun (n, rest) => (some (-(n : Int)), rest)
      | '+' :: cs => (exponentDigits? cs).map fun (n, rest) => (some (n : Int), rest)
      | cs => (exponentDigits? cs).map fun (n, rest) => (some (n : Int), rest)
    else some (none, c :: cs)
  | [] => some (none, [])

/-- A number without its sign, and what follows. -/
def unsigned? (negative : Bool) (cs : List Char) : Option (Number × List Char) := do
  let (whole, rest) := digits cs
  if whole = [] ∨ (whole.head? = some '0' ∧ 1 < whole.length) then none
  else do
    let (part, rest') ← fraction? rest
    let (power, rest'') ← exponent? rest'
    if (Scaled.ofDigits whole part (power.getD 0)).isFinite then
      some ({
        negative
        mantissa := ofDigits (whole ++ part)
        exponent := power.getD 0 - part.length
        integral := part.isEmpty && power.isNone }, rest'')
    else none

/-- A number, and what follows. -/
def number? : List Char → Option (Number × List Char)
  | '-' :: cs => unsigned? true cs
  | cs => unsigned? false cs

/-! ### Tokens -/

/-- The four white space characters of JSON. -/
def isSpace (c : Char) : Bool :=
  c = ' ' || c = '\n' || c = '\t' || c = '\r'

/-- A word at the start of a text, and what follows. -/
def word? (word : String) (token : Token) (cs : List Char) : Option (Token × List Char) :=
  if word.toList.isPrefixOf cs then some (token, cs.drop word.toList.length) else none

/-- The token at the start of a text, and what follows. -/
def token? : List Char → Option (Token × List Char)
  | [] => none
  | '[' :: cs => some (.openArray, cs)
  | ']' :: cs => some (.closeArray, cs)
  | '\x7b' :: cs => some (.openObject, cs)
  | '\x7d' :: cs => some (.closeObject, cs)
  | ',' :: cs => some (.comma, cs)
  | ':' :: cs => some (.colon, cs)
  | '"' :: cs => (stringBody? cs).map fun (body, rest) => (.string (String.ofList body), rest)
  | 'n' :: cs => word? "null" .null ('n' :: cs)
  | 't' :: cs => word? "true" (.bool true) ('t' :: cs)
  | 'f' :: cs => word? "false" (.bool false) ('f' :: cs)
  | cs => (number? cs).map fun (n, rest) => (.number n, rest)

/-- The tokens of a text, with as many steps as it has characters. -/
def lexWithin : Nat → List Char → Option (List Token)
  | 0, cs => if cs.all isSpace then some [] else none
  | steps + 1, cs =>
    match cs.dropWhile isSpace with
    | [] => some []
    | c :: rest =>
      match token? (c :: rest) with
      | some (token, tail) => (lexWithin steps tail).map (token :: ·)
      | none => none

/-- The tokens of a text; every token takes at least one character. -/
def lex (cs : List Char) : Option (List Token) :=
  lexWithin cs.length cs

/-! ### Values -/

/-- Items with a comma between each two, up to a closing token. -/
def itemsUntil {α : Type} (item : List Token → Option (α × List Token)) (close : Token) :
    Nat → List Token → Option (List α × List Token)
  | 0, _ => none
  | steps + 1, ts =>
    match item ts with
    | some (x, .comma :: rest) =>
      (itemsUntil item close steps rest).map fun (xs, rest) => (x :: xs, rest)
    | some (x, t :: rest) => if t = close then some ([x], rest) else none
    | _ => none

/-- A member of an object, its value read by `value`. -/
def member? (value : List Token → Option (Value × List Token)) :
    List Token → Option ((String × Value) × List Token)
  | .string name :: .colon :: ts => (value ts).map fun (v, rest) => ((name, v), rest)
  | _ => none

/-- A value at the start of the tokens, with containers at most `depth` deep, and what follows. -/
def value? : Nat → List Token → Option (Value × List Token)
  | _, .null :: ts => some (.null, ts)
  | _, .bool b :: ts => some (.bool b, ts)
  | _, .number n :: ts => some (.number n, ts)
  | _, .string s :: ts => some (.string s, ts)
  | _ + 1, .openArray :: .closeArray :: ts => some (.array [], ts)
  | _ + 1, .openObject :: .closeObject :: ts => some (.object [], ts)
  | depth + 1, .openArray :: ts =>
    (itemsUntil (value? depth) .closeArray ts.length ts).map fun (vs, rest) => (.array vs, rest)
  | depth + 1, .openObject :: ts =>
    (itemsUntil (member? (value? depth)) .closeObject ts.length ts).map fun (ms, rest) =>
      (.object ms, rest)
  | _, _ => none

/-- How deep containers may nest. -/
def maxDepth : Nat := 127

/-- The value that a text denotes. -/
def read? (s : String) : Option Value := do
  let ts ← lex s.toList
  match value? maxDepth ts with
  | some (v, []) => some v
  | _ => none

end LuaBundler.Json
