/-!
# Patterns

A pattern is a text in which each character is marked as quoted or not. An unquoted `*` stands for
any text, `?` for any character, and brackets for one character of a set; everything else stands for
itself, and so does a bracket that is not closed. Characters are octets, ordered as signed numbers.

`Pattern.parse` tells what the characters of a pattern mean, and `Pattern.matches` compares that
with a text.
-/

namespace LuaBundler.Shell

/-- A character, and whether it is quoted. -/
abbrev Mark := Char × Bool

/-- The characters of a text, all of them quoted or not. -/
def marks (isQuoted : Bool) (cs : List Char) : List Mark :=
  cs.map fun c => (c, isQuoted)

namespace Pattern

/-- The number of an octet as a signed byte. -/
def signed (c : Char) : Int :=
  if c.toNat < 128 then c.toNat else (c.toNat : Int) - 256

/-- A named class of characters. -/
inductive Kind where
  | alnum
  | cntrl
  | digit
  | graph
  | lower
  | print
  | punct
  | space
  | upper
  | xdigit
  | blank
  | alpha
  deriving DecidableEq

/-- The classes by name. -/
def kinds : List (String × Kind) := [("alnum", .alnum), ("cntrl", .cntrl), ("digit", .digit),
  ("graph", .graph), ("lower", .lower), ("print", .print), ("punct", .punct), ("space", .space),
  ("upper", .upper), ("xdigit", .xdigit), ("blank", .blank), ("alpha", .alpha)]

/-- Whether a class has a character. -/
def Kind.has (k : Kind) (c : Char) : Bool :=
  let n := c.toNat
  let isGraph := 0x20 < n && n < 0x7f
  match k with
  | alnum => c.isAlphanum
  | cntrl => n < 0x20 || n = 0x7f
  | digit => c.isDigit
  | graph => isGraph
  | lower => c.isLower
  | print => isGraph || c = ' '
  | punct => isGraph && !c.isAlphanum
  | space => c = ' ' || (9 ≤ n && n ≤ 13)
  | upper => c.isUpper
  | xdigit => c.isDigit || ('a' ≤ c && c ≤ 'f') || ('A' ≤ c && c ≤ 'F')
  | blank => c = ' ' || c = '\t'
  | alpha => c.isAlpha

/-- What a set of characters is made of. -/
inductive Item where
  | range (low high : Char)
  | kind (k : Kind)

/-- Whether a part of a set has a character. -/
def Item.has (c : Char) : Item → Bool
  | range low high => signed low ≤ signed c && signed c ≤ signed high
  | kind k => k.has c

/-- What a character or more of a pattern mean. -/
inductive Element where
  | any
  | one
  | char (c : Char)
  | set (isNegated : Bool) (items : List Item)

/-- The class that a text names between colons, and what follows the bracket after it. -/
def kind? (ms : List Mark) : Option (Kind × List Mark) :=
  match ms with
  | (':', false) :: rest =>
    let name := rest.takeWhile fun m => m.1.isAlpha && !m.2
    match rest.drop name.length with
    | (':', false) :: (']', false) :: rest =>
      (kinds.lookup (String.ofList (name.map (·.1)))).map (·, rest)
    | _ => none
  | _ => none

/-- The items of a set up to its bracket, and what follows it. -/
def items? : Nat → Bool → List Mark → Option (List Item × List Mark)
  | 0, _, _ => none
  | _ + 1, _, [] => none
  | steps + 1, isFirst, (c, isQuoted) :: rest =>
    if c = ']' ∧ !isQuoted ∧ !isFirst then some ([], rest)
    else match (if c = '[' ∧ !isQuoted then kind? rest else none) with
      | some (k, rest) => (items? steps false rest).map fun r => (.kind k :: r.1, r.2)
      | none =>
        match rest with
        | ('-', false) :: (d, isQuoted) :: rest' =>
          if d = ']' ∧ !isQuoted then
            (items? steps false rest).map fun r => (.range c c :: r.1, r.2)
          else (items? steps false rest').map fun r => (.range c d :: r.1, r.2)
        | _ => (items? steps false rest).map fun r => (.range c c :: r.1, r.2)

/-- The set that follows a bracket, and what follows the set. -/
def set? (ms : List Mark) : Option (Element × List Mark) :=
  let (isNegated, ms) := match ms with
    | (c, false) :: rest => if c = '!' ∨ c = '^' then (true, rest) else (false, ms)
    | ms => (false, ms)
  (items? (ms.length + 1) true ms).map fun r => (.set isNegated r.1, r.2)

/-- What the characters of a pattern mean, with so many steps. -/
def parseWithin : Nat → List Mark → List Element
  | 0, _ => []
  | _ + 1, [] => []
  | steps + 1, (c, isQuoted) :: rest =>
    if isQuoted then .char c :: parseWithin steps rest
    else if c = '*' then .any :: parseWithin steps rest
    else if c = '?' then .one :: parseWithin steps rest
    else match (if c = '[' then set? rest else none) with
      | some (e, rest) => e :: parseWithin steps rest
      | none => .char c :: parseWithin steps rest

/-- What the characters of a pattern mean. -/
def parse (ms : List Mark) : List Element :=
  parseWithin (ms.length + 1) ms

/-- Whether a test holds for some end of a text. -/
def anyEnd (test : List Char → Bool) : List Char → Bool
  | [] => test []
  | c :: cs => test (c :: cs) || anyEnd test cs

/-- Whether a pattern matches a text. -/
def «matches» : List Element → List Char → Bool
  | [], cs => cs.isEmpty
  | .any :: es, cs => anyEnd (fun ds => «matches» es ds) cs
  | .one :: es, _ :: cs => «matches» es cs
  | .char d :: es, c :: cs => c == d && «matches» es cs
  | .set isNegated items :: es, c :: cs => items.any (·.has c) != isNegated && «matches» es cs
  | _ :: _, [] => false

/-- A pattern of characters alone matches just its own text. -/
theorem matches_chars (text cs : List Char) :
    «matches» (text.map Element.char) cs = true ↔ cs = text := by
  induction text generalizing cs with
  | nil => cases cs <;> simp [«matches»]
  | cons d text ih =>
    cases cs with
    | nil => simp [«matches»]
    | cons c cs => simp [«matches», ih]

/-! ### Cutting off what matches -/

/-- The ends of a text, the longest first. -/
def ends : List Char → List (List Char)
  | [] => [[]]
  | c :: cs => (c :: cs) :: ends cs

/-- The text without its shortest or longest start that matches. -/
def dropStart (es : List Element) (longest : Bool) (cs : List Char) : List Char :=
  let sizes := List.range (cs.length + 1)
  let sizes := if longest then sizes.reverse else sizes
  match sizes.find? fun n => «matches» es (cs.take n) with
  | some n => cs.drop n
  | none => cs

/-- The text without its shortest or longest end that matches. -/
def dropEnd (es : List Element) (longest : Bool) (cs : List Char) : List Char :=
  let tails := if longest then ends cs else (ends cs).reverse
  match tails.find? («matches» es) with
  | some tail => cs.take (cs.length - tail.length)
  | none => cs

end Pattern

end LuaBundler.Shell
