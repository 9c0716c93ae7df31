import LuaBundler.Text.Split
import LuaBundler.Utility.Real
import LuaBundler.Utility.Streams

/-!
# Utilities: sorting

Putting lines in order by keys, which are parts of lines that are compared octet by octet, as numbers,
as months or as versions.
-/

namespace LuaBundler.Utility

open LuaBundler.Files LuaBundler.System LuaBundler.Text

/-! ### Orders -/

/-- How a key of a line is compared. -/
structure KeyOrder where
  isNumeric : Bool := false
  isGeneral : Bool := false
  isHuman : Bool := false
  isMonth : Bool := false
  isVersion : Bool := false
  isReverse : Bool := false
  isRandom : Bool := false
  foldsCase : Bool := false
  /-- Whether blanks are passed over where a key starts, and where it ends. -/
  skipsBlanks : Bool := false
  skipsLast : Bool := false
  ofDictionary : Bool := false
  ofPrintable : Bool := false

namespace KeyOrder

/-- An order with a letter of an option taken into account; `none` for other letters. -/
def with? (o : KeyOrder) (c : Char) : Option KeyOrder :=
  match c with
  | 'n' => some { o with isNumeric := true }
  | 'g' => some { o with isGeneral := true }
  | 'h' => some { o with isHuman := true }
  | 'M' => some { o with isMonth := true }
  | 'V' => some { o with isVersion := true }
  | 'r' => some { o with isReverse := true }
  | 'R' => some { o with isRandom := true }
  | 'f' => some { o with foldsCase := true }
  | 'b' => some { o with skipsBlanks := true }
  | 'd' => some { o with ofDictionary := true }
  | 'i' => some { o with ofPrintable := true }
  | _ => none

/-- Whether nothing is said about the order. -/
def isPlain (o : KeyOrder) : Bool :=
  !(o.isNumeric || o.isGeneral || o.isHuman || o.isMonth || o.isVersion || o.isReverse ||
    o.isRandom || o.foldsCase || o.skipsBlanks || o.skipsLast || o.ofDictionary || o.ofPrintable)

/-- The letters of the options that do not go together, if there are such. -/
def conflict? (o : KeyOrder) : Option String :=
  let kinds := [o.isNumeric, o.isGeneral, o.isHuman, o.isMonth,
    o.isVersion || o.isRandom || o.ofDictionary || o.ofPrintable].filter (fun b => b)
  if kinds.length ≤ 1 then none
  else some (String.ofList ([('d', o.ofDictionary), ('f', o.foldsCase), ('g', o.isGeneral),
    ('h', o.isHuman), ('i', o.ofPrintable && !o.ofDictionary), ('M', o.isMonth), ('n', o.isNumeric),
    ('R', o.isRandom), ('V', o.isVersion)].filterMap fun p => if p.2 then some p.1 else none))

/-- The order of two lists of characters. -/
def compareChars : List Char → List Char → Ordering
  | [], [] => .eq
  | [], _ => .lt
  | _, [] => .gt
  | a :: as, b :: bs => (compare a.toNat b.toNat).then (compareChars as bs)

/-- A blank of a line. -/
def isGap (c : Char) : Bool :=
  c = ' ' || c = '\t'

/-- A number at the start of a text: its sign, its whole digits and those after the point. -/
def numberAt (cs : List Char) : Bool × Nat × List Char :=
  let cs := cs.dropWhile isGap
  let (isNegative, cs) := match cs with
    | '-' :: cs => (true, cs)
    | cs => (false, cs)
  let whole := cs.takeWhile Char.isDigit
  let fraction := match cs.drop whole.length with
    | '.' :: ds => ds.takeWhile Char.isDigit
    | _ => []
  (isNegative, whole.foldl (fun n c => n * 10 + (c.toNat - 48)) 0, fraction)

/-- The number at the start of a text times a power of ten that makes it whole. -/
def scaled (places : Nat) (n : Bool × Nat × List Char) : Int :=
  let digits := n.2.2 ++ List.replicate (places - n.2.2.length) '0'
  let value : Int := digits.foldl (fun v c => v * 10 + (c.toNat - 48)) n.2.1
  if n.1 then -value else value

/-- The order of two texts as numbers. -/
def compareNumbers (a b : List Char) : Ordering :=
  let x := numberAt a
  let y := numberAt b
  let places := max x.2.2.length y.2.2.length
  compare (scaled places x) (scaled places y)

/-- The rank of the unit after the number at the start of a text. -/
def unitRank (cs : List Char) : Int :=
  let cs := cs.dropWhile isGap
  let (isNegative, cs) := match cs with
    | '-' :: cs => (true, cs)
    | cs => (false, cs)
  let rest := cs.dropWhile fun c => c.isDigit || c = '.'
  let rank : Int := match rest.head? with
    | some c => match "KMGTPEZY".toList.findIdx? (· == if c = 'k' then 'K' else c) with
      | some i => i + 1
      | none => 0
    | none => 0
  if isNegative then -rank else rank

/-- The number of the month that a text starts with, or zero. -/
def monthAt (cs : List Char) : Nat :=
  let name := String.ofList ((cs.dropWhile isGap).take 3 |>.map Char.toUpper)
  match ["JAN", "FEB", "MAR", "APR", "MAY", "JUN", "JUL", "AUG", "SEP", "OCT", "NOV",
      "DEC"].findIdx? (· == name) with
  | some i => i + 1
  | none => 0

/-- The rank of a text's first character among those that are no digits; the end comes before most of
them. -/
def versionRank : List Char → Int
  | [] => -1
  | c :: _ =>
    if c.isDigit then 0 else if c.isAlpha then c.toNat else if c = '~' then -2 else c.toNat + 256

/-- The order of two texts in which runs of digits count as numbers. -/
def compareRuns : Nat → List Char → List Char → Ordering
  | 0, _, _ => .eq
  | fuel + 1, as, bs =>
    let isOther (cs : List Char) : Bool := (cs.head?.map fun c => !c.isDigit).getD false
    if as.isEmpty && bs.isEmpty then .eq
    else if isOther as || isOther bs then
      (compare (versionRank as) (versionRank bs)).then (compareRuns fuel (as.drop 1) (bs.drop 1))
    else
      let ds := as.takeWhile Char.isDigit
      let es := bs.takeWhile Char.isDigit
      let value (ds : List Char) : Nat := ds.foldl (fun n c => n * 10 + (c.toNat - 48)) 0
      (compare (value ds) (value es)).then
        (compareRuns fuel (as.drop ds.length) (bs.drop es.length))

/-- A name without its endings: points with a letter after them, and what belongs to those. -/
def withoutEndings (cs : List Char) : List Char :=
  strip (cs.length + 1) cs.reverse
where
  /-- Drops endings from a reversed name. -/
  strip : Nat → List Char → List Char
    | 0, cs => cs.reverse
    | fuel + 1, cs =>
      let part := cs.takeWhile fun c => c.isAlphanum || c = '~'
      let isEnding := match part.reverse with
        | c :: _ => !c.isDigit
        | [] => false
      match cs.drop part.length with
      | '.' :: rest => if isEnding && !rest.isEmpty then strip fuel rest else cs.reverse
      | _ => cs.reverse

/-- The order of two texts as names with versions. -/
def compareVersions (a b : List Char) : Ordering :=
  let special (cs : List Char) : Nat :=
    match cs with
    | [] => 0
    | ['.'] => 1
    | ['.', '.'] => 2
    | '.' :: _ => 3
    | _ => 4
  if a = b then .eq
  else
    (compare (special a) (special b)).then
      ((compareRuns (a.length + b.length + 1) (withoutEndings a) (withoutEndings b)).then
        (compareRuns (a.length + b.length + 1) a b))

/-- The order of two texts as numbers of any form: texts that are none come first, and then what is
no number. -/
def compareGeneral (a b : List Char) : Ordering :=
  let read (cs : List Char) : Option RealNumber :=
    (RealNumber.read? 64 (cs.dropWhile fun c => isGap c || c = '\n')).map (·.1)
  let rank (r? : Option RealNumber) : Nat :=
    match r? with
    | none => 0
    | some (.undefined _) => 1
    | some _ => 2
  let x? := read a
  let y? := read b
  (compare (rank x?) (rank y?)).then
    (match x?, y? with
    | some x, some y => if x.less y then .lt else if y.less x then .gt else .eq
    | _, _ => .eq)

/-- The order of two keys. -/
def compareKeys (o : KeyOrder) (a b : List Char) : Ordering :=
  let a := if o.skipsBlanks then a.dropWhile isGap else a
  let b := if o.skipsBlanks then b.dropWhile isGap else b
  let result :=
    if o.isNumeric then compareNumbers a b
    else if o.isGeneral then compareGeneral a b
    else if o.isHuman then (compare (unitRank a) (unitRank b)).then (compareNumbers a b)
    else if o.isMonth then compare (monthAt a) (monthAt b)
    else if o.isVersion then compareVersions a b
    else
      let clean (cs : List Char) : List Char :=
        let cs := if o.ofDictionary then cs.filter fun c => c.isAlphanum || isGap c else cs
        let cs := if o.ofPrintable then cs.filter isPrintable else cs
        if o.foldsCase then cs.map Char.toUpper else cs
      compareChars (clean a) (clean b)
  if o.isReverse then result.swap else result

end KeyOrder

/-- A part of a line that it is sorted by: from a character of a field to one of another field, all
counted from one; a last character of zero is the end of its field. -/
structure SortKey where
  startField : Nat
  startChar : Nat
  endField : Option Nat
  endChar : Nat
  order : KeyOrder

/-- The fields of a line. Without a separator, a field starts with the blanks before it. -/
def fieldsOf (separator : Option Char) (line : List Char) : List (List Char) :=
  match separator with
  | some c => splitOn c line
  | none => blankFields (line.length + 1) line
where
  /-- Fields that blanks start. -/
  blankFields : Nat → List Char → List (List Char)
    | 0, _ => []
    | _ + 1, [] => []
    | fuel + 1, cs =>
      let gap := cs.takeWhile KeyOrder.isGap
      let rest := cs.drop gap.length
      let word := rest.takeWhile fun c => !KeyOrder.isGap c
      (gap ++ word) :: blankFields fuel (rest.drop word.length)

/-- The part of a line that a key means. -/
def SortKey.of (k : SortKey) (separator : Option Char) (line : List Char) : List Char :=
  let fields := fieldsOf separator line
  let gapSize := if separator.isSome then 1 else 0
  let start (n : Nat) : Nat := ((fields.take n).map fun f => f.length + gapSize).foldl (· + ·) 0
  let blanks (n : Nat) : Nat := ((fields.getD n []).takeWhile KeyOrder.isGap).length
  let skip (n : Nat) : Nat := if k.order.skipsLast then blanks n else 0
  let first := start (k.startField - 1) + (k.startChar - 1) +
    (if k.order.skipsBlanks then blanks (k.startField - 1) else 0)
  let last := match k.endField with
    | none => line.length
    | some n =>
      if k.endChar = 0 then start (n - 1) + (fields.getD (n - 1) []).length
      else min (start (n - 1) + (fields.getD (n - 1) []).length)
        (start (n - 1) + k.endChar + skip (n - 1))
  (line.take last).drop first

/-- Reads a count of a position; `place` says where it stands. -/
def readCount (place : String) (cs : List Char) : Except String (Nat × List Char) :=
  let ds := cs.takeWhile Char.isDigit
  match natural? (String.ofList ds) with
  | some n => .ok (n, cs.drop ds.length)
  | none => .error ("invalid number " ++ place ++ ": invalid count at start of " ++
      cited (String.ofList cs))

/-- Reads the letters of an order; blanks that are passed over are those of one end. -/
def readLetters (isLast : Bool) : List Char → KeyOrder → KeyOrder × List Char
  | [], o => (o, [])
  | c :: cs, o =>
    if c = 'b' then
      readLetters isLast cs (if isLast then { o with skipsLast := true }
        else { o with skipsBlanks := true })
    else match o.with? c with
      | some o => readLetters isLast cs o
      | none => (o, c :: cs)

/-- Reads a key. -/
def readKey (text : String) : Except String SortKey := do
  let bad (reason : String) : Except String SortKey :=
    .error (reason ++ ": invalid field specification " ++ cited text)
  let (field, rest) ← readCount "at field start" text.toList
  if field = 0 then return ← bad "field number is zero"
  let (char, rest) ← match rest with
    | '.' :: rest => readCount "after '.'" rest
    | rest => pure (1, rest)
  if char = 0 then return ← bad "character offset is zero"
  let (order, rest) := readLetters false rest {}
  match rest with
  | [] => return ⟨field, char, none, 0, order⟩
  | ',' :: rest =>
    let (endField, rest) ← readCount "after ','" rest
    if endField = 0 then return ← bad "field number is zero"
    let (endChar, rest) ← match rest with
      | '.' :: rest => readCount "after '.'" rest
      | rest => pure (0, rest)
    let (order, rest) := readLetters true rest order
    if rest = [] then return ⟨field, char, some endField, endChar, order⟩
    else bad "stray character in field spec"
  | _ => bad "stray character in field spec"

/-- How `sort` compares lines. -/
structure LineOrder where
  keys : List SortKey
  separator : Option Char
  isReverse : Bool
  isStable : Bool

/-- The order of two lines by their keys. -/
def LineOrder.compareByKeys (o : LineOrder) (a b : List Char) : Ordering :=
  o.keys.foldl (fun result k =>
    result.then (k.order.compareKeys (k.of o.separator a) (k.of o.separator b))) .eq

/-- The order of two lines. -/
def LineOrder.compare (o : LineOrder) (a b : List Char) : Ordering :=
  let byKeys := o.compareByKeys a b
  if o.isStable then byKeys
  else
    let whole := KeyOrder.compareChars a b
    byKeys.then (if o.isReverse then whole.swap else whole)

/-- Lines without those that are like the one before. -/
def dropLike (same : List Char → List Char → Bool) : List (List Char) → List (List Char)
  | a :: b :: rest =>
    if same a b then dropLike same (a :: rest) else a :: dropLike same (b :: rest)
  | lines => lines
termination_by lines => lines.length

/-- The number and text of the first line that is out of order. -/
def disorder? (bad : List Char → List Char → Bool) : Nat → List (List Char) →
    Option (Nat × List Char)
  | n, a :: b :: rest => if bad a b then some (n + 1, b) else disorder? bad (n + 1) (b :: rest)
  | _, _ => none

/-- Reads the files that are sorted. -/
def readSorted (c : Call) : List String → Action (Option String)
  | [] => return some ""
  | path :: paths => do
    match ← readFile path with
    | .ok text =>
      let text := if text = "" || endsLine '\n' text then text else text ++ "\n"
      match ← readSorted c paths with
      | some rest => return some (text ++ rest)
      | none => return none
    | .error e =>
      c.complain ((if e = .isDirectory then "read failed: " else "cannot read: ") ++ shown path ++
        ": " ++ e.reason)
      return none

/-- The letter of a way of sorting that has a name. -/
def sortLetter? (name : String) : Option String :=
  [("general-numeric", "g"), ("human-numeric", "h"), ("month", "M"), ("numeric", "n"),
    ("random", "R"), ("version", "V")].lookup name

/-- How `sort` is called, as its options say. -/
structure SortSettings where
  order : LineOrder
  ending : Char
  /-- Whether it is just checked that lines are in order, and whether the first wrong one is told. -/
  checks? : Option Bool := none
  isUnique : Bool := false
  target? : Option String := none

/-- Reads the options. -/
def sortSettings (w : Words) : Except String SortSettings := do
  let options ← w.options.mapM fun o =>
    if o.1 = "sort" then
      match sortLetter? o.2 with
      | some letter => .ok (letter, "")
      | none => .error ("invalid argument " ++ cited o.2 ++ " for '--sort'")
    else .ok o
  let whole := options.foldl (fun (o : KeyOrder) p =>
    ((p.1.toList.head?).bind fun c =>
      if p.1.length ≠ 1 then none
      else if c = 'b' then some { o with skipsBlanks := true, skipsLast := true }
      else o.with? c).getD o) {}
  let keys ← ((options.filter (·.1 = "k")).map (·.2)).mapM readKey
  let keys := keys.map fun k => if k.order.isPlain then { k with order := whole } else k
  let keys := if keys.isEmpty then [⟨1, 1, none, 0, whole⟩] else keys
  if let some letters := keys.findSome? fun k => k.order.conflict? then
    .error ("options '-" ++ letters ++ "' are incompatible")
  let separator ← match w.get? "t" with
    | none => pure none
    | some "" => .error "empty tab"
    | some "\\0" => pure (some '\x00')
    | some t =>
      if t.length = 1 then pure t.toList.head? else .error ("multi-character tab " ++ cited t)
  let checks? := match w.last? ["c", "C"] with
    | some "c" => some (!(["quiet", "silent"].contains ((w.get? "c").getD "")))
    | some _ => some false
    | none => none
  if let (some _, _ :: extra :: _) := (checks?, w.operands) then
    .error ("extra operand " ++ quoted extra ++ " not allowed with -" ++
      (if checks? = some true then "c" else "C"))
  if w.has "c" && w.has "C" then .error "options '-cC' are incompatible"
  return {
    order := ⟨keys, separator, whole.isReverse, w.has "s" || w.has "u"⟩
    ending := if w.has "z" then '\x00' else '\n'
    checks?, isUnique := w.has "u", target? := w.get? "o" }

/-- Sorts lines. -/
def sort : Program := fun c =>
  c.withWords [⟨"b", ["ignore-leading-blanks"], .plain⟩, ⟨"c", ["check"], .plain⟩,
    ⟨"C", [], .plain⟩, ⟨"d", ["dictionary-order"], .plain⟩, ⟨"f", ["ignore-case"], .plain⟩,
    ⟨"g", ["general-numeric-sort"], .plain⟩, ⟨"h", ["human-numeric-sort"], .plain⟩,
    ⟨"i", ["ignore-nonprinting"], .plain⟩, ⟨"k", ["key"], .required⟩, ⟨"m", ["merge"], .plain⟩,
    ⟨"M", ["month-sort"], .plain⟩, ⟨"n", ["numeric-sort"], .plain⟩, ⟨"o", ["output"], .required⟩,
    ⟨"r", ["reverse"], .plain⟩, ⟨"R", ["random-sort"], .plain⟩, ⟨"s", ["stable"], .plain⟩,
    ⟨"S", ["buffer-size"], .required⟩, ⟨"t", ["field-separator"], .required⟩,
    ⟨"T", ["temporary-directory"], .required⟩, ⟨"u", ["unique"], .plain⟩,
    ⟨"V", ["version-sort"], .plain⟩, ⟨"z", ["zero-terminated"], .plain⟩,
    ⟨"sort", ["sort"], .required⟩, ⟨"parallel", ["parallel"], .required⟩] (fun w => do
  match sortSettings w with
  | .error reason => c.fail 2 reason
  | .ok k =>
    match ← readSorted c w.files with
    | none => return 2
    | some text =>
      let lines := (linesOf k.ending text).map String.toList
      match k.checks? with
      | some tells =>
        let bad (a b : List Char) : Bool :=
          match k.order.compare a b with
          | .gt => true
          | .eq => k.isUnique
          | .lt => false
        match disorder? bad 1 lines with
        | none => return 0
        | some (n, line) =>
          if tells then
            c.complain (w.files.headD "-" ++ ":" ++ decimal n ++ ": disorder: " ++ String.ofList line)
          return 1
      | none =>
        let sorted := lines.mergeSort fun a b => k.order.compare a b != .gt
        let sorted := if k.isUnique then
          dropLike (fun a b => k.order.compareByKeys a b == .eq) sorted else sorted
        let out := joinLines k.ending (sorted.map String.ofList)
        match k.target? with
        | none => c.finish out 0 2
        | some path =>
          match ← writeFile path out with
          | none => return 0
          | some e => c.fail 2 ("open failed: " ++ shown path ++ ": " ++ e.reason)) 2

end LuaBundler.Utility
