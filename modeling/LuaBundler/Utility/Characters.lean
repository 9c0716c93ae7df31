import LuaBundler.Utility.Basic
import LuaBundler.Utility.LineSource
import LuaBundler.Utility.Options
import LuaBundler.Utility.Regex.Reader

/-!
# Utilities: characters

Copying the input with some characters taken out, mapped to others, or squeezed: of several of them
that come one after the other, one is left.

A description lists characters: as they are, as ranges, by the name of a class, or one of them
several times. It stands for the sequence of these characters. Two descriptions map the characters
of the one to those of the other, place by place; letters of one case go to those of the other one.
-/

namespace LuaBundler.Utility

open LuaBundler.Text

namespace Charset

/-- An element of a description. -/
inductive Element where
  | char (c : Char)
  | range (first last : Char)
  | named (name : String)
  | equal (c : Char)
  /-- A character so many times; as often as it takes if it is not told. -/
  | repeated (c : Char) (count? : Option Nat)

/-- What is wrong with a description. -/
inductive Flaw where
  | reverseRange (first last : Char)
  | noClassName
  | noEqualChar
  | badClass (name : String)
  | badEqual (text : String)
  | badCount (text : String)

/-- A character as it is told. -/
def toldChar (c : Char) : String :=
  if c = '\\' then "\\\\"
  else if isPrintable c then String.singleton c
  else String.ofList (hiddenText c)

/-- A text as it is told. -/
def told (text : String) : String :=
  "".intercalate (text.toList.map toldChar)

/-- What is said about a flaw. -/
def Flaw.message : Flaw → String
  | reverseRange a b =>
    "range-endpoints of '" ++ toldChar a ++ "-" ++ toldChar b ++
      "' are in reverse collating sequence order"
  | noClassName => "missing character class name '[::]'"
  | noEqualChar => "missing equivalence class character '[==]'"
  | badClass name => "invalid character class " ++ cited (told name)
  | badEqual text => told text ++ ": equivalence class operand must be a single character"
  | badCount text => "invalid repeat count " ++ cited (told text) ++ " in [c*n] construct"

/-! ### Escapes -/

/-- A character of a description, and whether it was escaped. -/
abbrev Sign := Char × Bool

/-- The characters that stand for others after a backslash. -/
def escapes : List (Char × Char) := [('\\', '\\'), ('a', '\x07'), ('b', '\x08'), ('f', '\x0c'),
  ('n', '\n'), ('r', '\r'), ('t', '\t'), ('v', '\x0b')]

/-- Whether a character is an octal digit. -/
def isOctal (c : Char) : Bool :=
  '0' ≤ c && c ≤ '7'

/-- The number that octal digits spell. -/
def octalValue (cs : List Char) : Nat :=
  cs.foldl (fun n c => 8 * n + (c.toNat - 48)) 0

/-- What is said about a number that is too large for a character. -/
def ambiguity (a b c : Char) : String :=
  "warning: the ambiguous octal escape \\" ++ String.ofList [a, b, c] ++
    " is being\n\tinterpreted as the 2-byte sequence \\0" ++ String.ofList [a, b] ++ ", " ++
    String.singleton c

/-- The characters of a description, and what is odd about them. -/
def signs : Nat → List Char → List Sign × List String
  | 0, _ | _ + 1, [] => ([], [])
  | _ + 1, ['\\'] =>
    ([('\\', false)], ["warning: an unescaped backslash at end of string is not portable"])
  | steps + 1, '\\' :: c :: cs =>
    let go (sign : Char) (rest : List Char) (odd : List String) : List Sign × List String :=
      let (others, oddities) := signs steps rest
      ((sign, true) :: others, odd ++ oddities)
    if isOctal c then
      let digits := c :: (cs.take 2).takeWhile isOctal
      if octalValue digits < 256 then
        go (Char.ofNat (octalValue digits)) (cs.drop (digits.length - 1)) []
      else
        let odd := match digits with
          | [a, b, d] => [ambiguity a b d]
          | _ => []
        go (Char.ofNat (octalValue (digits.take 2))) (cs.drop 1) odd
    else go ((escapes.lookup c).getD c) cs []
  | steps + 1, c :: cs =>
    let (others, oddities) := signs steps cs
    ((c, false) :: others, oddities)

/-! ### Reading -/

/-- The characters up to a delimiter before a bracket, and what follows these. -/
def readClosed (delimiter : Char) : List Sign → Option (List Char × List Sign)
  | (c, isEscaped) :: (']', false) :: rest =>
    if c = delimiter && !isEscaped then some ([], rest)
    else (readClosed delimiter ((']', false) :: rest)).map fun (cs, rest) => (c :: cs, rest)
  | (c, _) :: rest => (readClosed delimiter rest).map fun (cs, rest) => (c :: cs, rest)
  | [] => none

/-- Reads the count of a repeated character, and what follows its bracket. -/
def readCount? (signs : List Sign) : Option (Except Flaw (Option Nat × List Sign)) :=
  let digits := signs.takeWhile fun s => s.1 ≠ ']' && !s.2
  match signs.drop digits.length with
  | (']', false) :: rest =>
    let cs := digits.map (·.1)
    let isOctalNumber := cs.head? = some '0'
    if cs.isEmpty then some (.ok (none, rest))
    else if !cs.all (fun c => if isOctalNumber then isOctal c else c.isDigit) then
      some (.error (.badCount (String.ofList cs)))
    else
      let n := if isOctalNumber then octalValue cs
        else cs.foldl (fun n c => 10 * n + (c.toNat - 48)) 0
      some (.ok (if n = 0 then none else some n, rest))
  | _ => none

/-- Reads a character that is repeated, after the bracket. -/
def readRepeated? : List Sign → Option (Except Flaw (Element × List Sign))
  | (c, _) :: ('*', false) :: rest =>
    (readCount? rest).map fun read => read.map fun (count?, rest) => (.repeated c count?, rest)
  | _ => none

/-- Reads what has brackets, after the first one; there may be no such thing. -/
def readBracketed? (signs : List Sign) : Option (Except Flaw (Element × List Sign)) :=
  match signs with
  | (delimiter, false) :: rest =>
    if delimiter = ':' || delimiter = '=' then
      match readClosed delimiter rest with
      | none => readRepeated? signs
      | some (cs, after) =>
        let name := String.ofList cs
        match delimiter, cs with
        | ':', [] => some (.error .noClassName)
        | _, [] => some (.error .noEqualChar)
        | ':', _ =>
          if (Regex.Reading.classes.lookup name).isSome then some (.ok (.named name, after))
          else (readRepeated? signs).or (some (.error (.badClass name)))
        | _, [c] => some (.ok (.equal c, after))
        | _, _ => (readRepeated? signs).or (some (.error (.badEqual name)))
    else readRepeated? signs
  | _ => readRepeated? signs

/-- Reads a description. What is special has three characters at least. -/
def readSigns : Nat → List Sign → Except Flaw (List Element)
  | 0, _ | _ + 1, [] => .ok []
  | steps + 1, (c, isEscaped) :: rest =>
    match (if c = '[' && !isEscaped && 2 ≤ rest.length then readBracketed? rest else none) with
    | some (.error e) => .error e
    | some (.ok (element, rest)) => do return element :: (← readSigns steps rest)
    | none =>
      match rest with
      | ('-', false) :: (d, _) :: rest =>
        if d < c then .error (.reverseRange c d)
        else do return .range c d :: (← readSigns steps rest)
      | _ => do return .char c :: (← readSigns steps rest)

/-- Reads a description, and gives what is odd about it. -/
def read (text : String) : Except Flaw (List Element) × List String :=
  let (found, oddities) := signs (text.length + 1) text.toList
  (readSigns (found.length + 1) found, oddities)

/-! ### Characters -/

/-- All characters, in order. -/
def everyChar : List Char :=
  (List.range 256).map Char.ofNat

namespace Element

/-- The characters of an element; one that is not told how often it is repeated has none. -/
def chars : Element → List Char
  | char c | equal c => [c]
  | range a b => (everyChar.drop a.toNat).take (b.toNat + 1 - a.toNat)
  | named name => everyChar.filter ((Regex.Reading.classes.lookup name).getD fun _ => false)
  | repeated c count? => List.replicate (count?.getD 0) c

/-- Whether an element is the name of a class. -/
def isNamed : Element → Bool
  | named _ => true
  | _ => false

/-- Whether an element is a character as often as it takes. -/
def isFilling : Element → Bool
  | repeated _ none => true
  | _ => false

/-- Whether an element is the letters of a case. -/
def isCase : Element → Bool
  | named name => name = "upper" || name = "lower"
  | _ => false

end Element

/-- The characters of a description. -/
def chars (elements : List Element) : List Char :=
  elements.flatMap Element.chars

/-! ### Mappings -/

/-- A place of a description: a character, and if it is the first one of the letters of a case,
the name of the case and how many follow it. -/
structure Slot where
  char : Char
  case? : Option String := none
  others : Nat := 0

/-- The places of an element. -/
def Element.slots (e : Element) : List Slot :=
  match e, e.chars with
  | .named name, c :: cs =>
    if e.isCase then ⟨c, some name, cs.length⟩ :: cs.map fun c => ⟨c, none, 0⟩
    else (c :: cs).map fun c => ⟨c, none, 0⟩
  | _, cs => cs.map fun c => ⟨c, none, 0⟩

/-- The pairs that two descriptions make, place by place, and what is left of either; nothing if
the letters of a case do not stand opposite to such letters. -/
def pairs : Nat → List Slot → List Slot → Option (List (Slot × Slot) × List Slot × List Slot)
  | 0, s, t => some ([], s, t)
  | steps + 1, a :: s, b :: t =>
    if b.case?.isSome then
      if a.case?.isSome then
        (pairs steps (s.drop a.others) (t.drop b.others)).map fun (ps, rest) => ((a, b) :: ps, rest)
      else none
    else (pairs steps s t).map fun (ps, rest) => ((a, b) :: ps, rest)
  | _ + 1, [], b :: t => if b.case?.isSome then none else some ([], [], b :: t)
  | _ + 1, s, [] => some ([], s, [])

/-- What a pair of places maps. -/
def mapped : Slot × Slot → List (Char × Char)
  | (a, b) =>
    let letters (test : Char → Bool) (f : Char → Char) : List (Char × Char) :=
      (everyChar.filter test).map fun c => (c, f c)
    match a.case?, b.case? with
    | some "lower", some "upper" => letters Char.isLower Char.toUpper
    | some "upper", some "lower" => letters Char.isUpper Char.toLower
    | _, _ => [(a.char, b.char)]

/-- What is wrong with two descriptions. -/
inductive Mismatch where
  | fillingFirst
  | severalFillings
  | equalInSecond
  | otherClass
  | misaligned
  | emptySecond
  | endsInClass
  | notOne
  | uselessFilling

/-- What is said about two descriptions that do not go together. -/
def Mismatch.message : Mismatch → String
  | fillingFirst => "the [c*] repeat construct may not appear in string1"
  | severalFillings => "only one [c*] repeat construct may appear in string2"
  | equalInSecond => "[=c=] expressions may not appear in string2 when translating"
  | otherClass => "when translating, the only character classes that may appear in\n" ++
      "string2 are 'upper' and 'lower'"
  | misaligned => "misaligned [:upper:] and/or [:lower:] construct"
  | emptySecond => "when not truncating set1, string2 must be non-empty"
  | endsInClass => "when translating with string1 longer than string2,\n" ++
      "the latter string must not end with a character class"
  | notOne => "when translating with complemented character classes,\n" ++
      "string2 must map all characters in the domain to one"
  | uselessFilling => "the [c*] construct may appear in string2 only when translating"

/-- The characters that are not in a description. -/
def complement (elements : List Element) : List Char :=
  let given := chars elements
  everyChar.filter fun c => !given.contains c

/-- A description with the character that is repeated as often as it takes repeated so that there
are as many characters as told. -/
def fill (count : Nat) (elements : List Element) : List Element :=
  let missing := count - (chars elements).length
  elements.map fun e => match e with
    | .repeated c none => .repeated c (some missing)
    | e => e

/-- The character that a description is continued with: its last one. -/
def lastChar (elements : List Element) : Except Mismatch Char :=
  match elements.getLast? with
  | none => .error .emptySecond
  | some (.named _) => .error .endsInClass
  | some e =>
    match e, e.chars.getLast? with
    | .repeated c _, _ | _, some c => .ok c
    | _, none => .error .emptySecond

/-- How characters are mapped by two descriptions: the first one may be of the characters that it
does not name, and what it has more may be passed over. Gives the second one as it was continued. -/
def mapping (isComplement truncates : Bool) (first second : List Element) :
    Except Mismatch (List (Char × Char) × List Char) := do
  let sources := if isComplement then complement first else chars first
  if first.any (·.isFilling) then throw .fillingFirst
  if 1 < (second.filter (·.isFilling)).length then throw .severalFillings
  let second := fill sources.length second
  if second.any (fun e => match e with
    | .equal _ => true
    | _ => false) then throw .equalInSecond
  if second.any (fun e => e.isNamed && !e.isCase) then throw .otherClass
  let slots (cs : List Char) : List Slot := cs.map fun c => ⟨c, none, 0⟩
  let sourceSlots := if isComplement then slots sources else first.flatMap Element.slots
  let targets := chars second
  let targetSlots := if isComplement then slots targets else second.flatMap Element.slots
  match pairs (sourceSlots.length + targetSlots.length + 1) sourceSlots targetSlots with
  | none => throw .misaligned
  | some (found, left, _) =>
    let (rest, targets) ← if left.isEmpty || truncates then pure ([], targets)
      else if targets.isEmpty then throw .emptySecond
      else do
        let c ← lastChar second
        pure (left.map fun s => (s.char, c), targets ++ left.map fun _ => c)
    if isComplement && first.any (·.isNamed) &&
        !(targets.length = sources.length && targets.eraseDups.length = 1) then throw .notOne
    return (found.flatMap mapped ++ rest, targets)

end Charset

end LuaBundler.Utility

/-! ### Filters -/

namespace LuaBundler.Utility

open LuaBundler.Files LuaBundler.System LuaBundler.Text

/-- What is done with each byte. -/
structure Filter where
  removed : List Char := []
  mapping : List (Char × Char) := []
  squeezed : List Char := []

namespace Filter

/-- A filter as tables that bytes are looked up in. -/
structure Tables where
  isRemoved : Array Bool
  image : Array UInt8
  isSqueezed : Array Bool

/-- The tables of a filter. Of several images of a character the last one counts. -/
def tables (f : Filter) : Tables :=
  let flags (cs : List Char) : Array Bool :=
    cs.foldl (fun a c => a.setIfInBounds c.toNat true) (Array.replicate 256 false)
  { isRemoved := flags f.removed
    image := f.mapping.foldl (fun a m => a.setIfInBounds m.1.toNat (octetByte m.2))
      (Array.ofFn fun i : Fin 256 => UInt8.ofNat i.val)
    isSqueezed := flags f.squeezed }

/-- What is left of bytes, given the last byte that was left before them; gives the last one too. -/
def Tables.apply (t : Tables) (last? : Option UInt8) (bytes : ByteArray) : ByteArray × Option UInt8 :=
  bytes.foldl (fun (out, last?) b =>
    if t.isRemoved.getD b.toNat false then (out, last?)
    else
      let image := t.image.getD b.toNat b
      if t.isSqueezed.getD image.toNat false && last? == some image then (out, last?)
      else (out.push image, some image)) (ByteArray.empty, last?)

/-- Copies the input through a filter. -/
def copyWithin (c : Call) (t : Tables) : Nat → Option UInt8 → Gathered → Action Nat
  | 0, _, g => g.finish c 0 1
  | steps + 1, last?, g => do
    match ← readPiece 0 with
    | .error e =>
      discard g.flush
      c.fail 1 ("read error: " ++ e.reason)
    | .ok bytes =>
      if bytes.size = 0 then g.finish c 0 1
      else
        let (out, last?) := t.apply last? bytes
        let g ← g.put (octetsOfArray out)
        match g.failure? with
        | some _ => g.finish c 0 1
        | none => copyWithin c t steps last? g

/-- Copies the input through a filter. -/
def copy (f : Filter) (c : Call) : Action Nat :=
  copyWithin c f.tables maxSteps none {}

end Filter

/-- The options of `tr`. -/
def translationChoices : List Choice := [
  ⟨"C", ["complement"], .plain⟩, ⟨"c", [], .plain⟩, ⟨"d", ["delete"], .plain⟩,
  ⟨"s", ["squeeze-repeats"], .plain⟩, ⟨"t", ["truncate-set1"], .plain⟩]

/-- How the options and descriptions of a call make a filter. -/
def filterOf (w : Words) (first : List Charset.Element) (second? : Option (List Charset.Element)) :
    Except Charset.Mismatch Filter := do
  let isComplement := w.has "C" || w.has "c"
  let chosen := if isComplement then Charset.complement first else Charset.chars first
  let squeezes := w.has "s"
  match second? with
  | none =>
    if first.any (·.isFilling) then throw .fillingFirst
    return if w.has "d" then { removed := chosen } else { squeezed := chosen }
  | some second =>
    if w.has "d" then
      if first.any (·.isFilling) then throw .fillingFirst
      match (second.filter (·.isFilling)).length with
      | 0 => pure ()
      | 1 => throw .uselessFilling
      | _ => throw .severalFillings
      return { removed := chosen, squeezed := Charset.chars second }
    else
      let (mapping, targets) ← Charset.mapping isComplement (w.has "t") first second
      return { mapping, squeezed := if squeezes then targets else [] }

/-- Reads a description and says what is odd about it. -/
def readCharset (c : Call) (text : String) :
    Action (Except Charset.Flaw (List Charset.Element)) := do
  let (read, oddities) := Charset.read text
  for oddity in oddities do
    c.complain oddity
  return read

/-- What is wrong with the number of operands, with what is added in a line of its own. -/
def operandFault? (w : Words) : Option (String × String) :=
  let deletes := w.has "d"
  let squeezes := w.has "s"
  let least := if deletes = squeezes then 2 else 1
  let most := if deletes && !squeezes then 1 else 2
  let count := w.operands.length
  if count < least then
    match w.operands.getLast? with
    | none => some ("missing operand", "")
    | some last => some ("missing operand after " ++ cited last,
      if squeezes then "Two strings must be given when both deleting and squeezing repeats.\n"
      else "Two strings must be given when translating.\n")
  else if most < count then
    some ("extra operand " ++ cited (w.operands.getD most ""),
      if count = 2 then
        "Only one string may be given when deleting without squeezing repeats.\n" else "")
  else none

/-- Runs `tr` with its options and operands. -/
def translate (c : Call) (w : Words) : Action Nat := do
  match operandFault? w with
  | some (reason, addition) =>
    c.complain reason
    c.note (addition ++ "Try '" ++ c.name ++ " --help' for more information.\n")
    return 1
  | none =>
    match ← readCharset c (w.operands.headD "") with
    | .error e => c.fail 1 e.message
    | .ok first =>
      let run (second? : Option (List Charset.Element)) : Action Nat :=
        match filterOf w first second? with
        | .error e => c.fail 1 e.message
        | .ok filter => filter.copy c
      match w.operands[1]? with
      | none => run none
      | some text =>
        match ← readCharset c text with
        | .error e => c.fail 1 e.message
        | .ok second => run (some second)

/-- Copies the input with characters mapped, taken out or squeezed. -/
def tr : Program := fun c =>
  c.withWords translationChoices (translate c) 1 true

end LuaBundler.Utility
