import LuaBundler.Utility.Entries
import LuaBundler.Utility.LineSource
import LuaBundler.Utility.Options

/-!
# Utilities: two files side by side

Lines that two sorted files have in common or not, lines of two files joined by a field, and the
places where two files differ.
-/

namespace LuaBundler.Utility

open LuaBundler.Files LuaBundler.System LuaBundler.Text

/-! ### Remarks -/

/-- What is written about two files: a piece of output, a warning, or a complaint that ends it. -/
inductive Remark where
  | output (text : String)
  | warning (text : String)
  | failure (text : String)

/-- Writes remarks in their order; ends with a status. -/
def writeRemarks (c : Call) (status : Nat) : List Remark → Gathered → Action Nat
  | [], g => g.finish c status 1
  | .output text :: rest, g => do writeRemarks c status rest (← g.put text)
  | .warning text :: rest, g => do
    let g ← g.flush
    c.complain text
    writeRemarks c status rest g
  | .failure text :: _, g => do
    let g ← g.flush
    c.complain text
    g.finish c 1 1

/-- When it is checked that lines are in order. -/
inductive OrderCheck where
  | never
  /-- If a line has been found that has no counterpart. -/
  | ifNeeded
  | always

/-- What is known of the order of two files: whether a line had no counterpart, and which files have
been complained of. -/
structure OrderState where
  check : OrderCheck
  hasSingle : Bool := false
  warnedFirst : Bool := false
  warnedSecond : Bool := false

namespace OrderState

/-- Whether a file has been complained of. -/
def warned (o : OrderState) (isFirst : Bool) : Bool :=
  if isFirst then o.warnedFirst else o.warnedSecond

/-- Checks the order of two lines of a file, and complains with a text. -/
def look (o : OrderState) (isFirst isWrong : Bool) (text : String) : OrderState × List Remark :=
  let looks := match o.check with
    | .never => false
    | .ifNeeded => o.hasSingle
    | .always => true
  if !looks || o.warned isFirst || !isWrong then (o, [])
  else
    let o := if isFirst then { o with warnedFirst := true } else { o with warnedSecond := true }
    (o, [match o.check with
      | .always => .failure text
      | _ => .warning text])

/-- What is said in the end. -/
def ending (o : OrderState) : List Remark :=
  if o.warnedFirst || o.warnedSecond then [.failure "input is not in sorted order"] else []

end OrderState

/-- The order check that options ask for. -/
def orderCheckOf (w : Words) : OrderCheck :=
  match w.last? ["check-order", "nocheck-order"] with
  | some "check-order" => .always
  | some _ => .never
  | none => .ifNeeded

/-- Goes on with the texts of two files, or complains. -/
def withTexts (c : Call) (a b : String) (f : String → String → Action Nat) : Action Nat := do
  match ← readFile a with
  | .error e => c.fail 1 (shown a ++ ": " ++ e.reason)
  | .ok s =>
    match ← readFile b with
    | .error e => c.fail 1 (shown b ++ ": " ++ e.reason)
    | .ok t => f s t

/-! ### Common lines -/

/-- How common lines are shown. -/
structure Columns where
  /-- Which columns are left out: lines of the first file, of the second one, and of both. -/
  hidden : List Nat
  delimiter : String
  ending : Char

namespace Columns

/-- A line in its column. -/
def text (k : Columns) (column : Nat) (line : String) : Remark :=
  if k.hidden.contains column then .output ""
  else
    let indents := (List.range (column - 1)).filter fun i => !k.hidden.contains (i + 1)
    .output ((indents.foldl (fun s _ => s ++ k.delimiter) "" ++ line).push k.ending)

/-- The complaint of a file that is not in order. -/
def disorder (isFirst : Bool) : String :=
  "file " ++ (if isFirst then "1" else "2") ++ " is not in sorted order"

/-- Goes on to the next line of a file: `last?` is the line before the present one. -/
def advance (o : OrderState) (isFirst : Bool) (last? : Option String) :
    List String → OrderState × List Remark
  | line :: next :: _ => o.look isFirst (decide (next < line)) (disorder isFirst)
  | [line] => o.look isFirst (last?.any fun last => decide (line < last)) (disorder isFirst)
  | [] => (o, [])

/-- Goes through the lines of two files; counts the lines of each column. -/
def walk (k : Columns) : Nat → OrderState → Option String → Option String → List String →
    List String → List Nat → List Remark → List Remark × OrderState × List Nat
  | 0, o, _, _, _, _, counts, found => (found, o, counts)
  | steps + 1, o, lastA?, lastB?, as, bs, counts, found =>
    let order? : Option Ordering := match as, bs with
      | [], [] => none
      | [], _ => some .gt
      | _, [] => some .lt
      | a :: _, b :: _ => some (if a = b then .eq else if a < b then .lt else .gt)
    match order? with
    | none => (found, o, counts)
    | some order =>
      let column := match order with
        | .lt => 1
        | .gt => 2
        | .eq => 3
      let line := (if order = .gt then bs else as).headD ""
      let o := if order = .eq then o else { o with hasSingle := true }
      let (o, first) := if order ≠ .gt then advance o true lastA? as else (o, [])
      let (o, second) := if order ≠ .lt then advance o false lastB? bs else (o, [])
      walk k steps o (if order ≠ .gt then as.head? else lastA?)
        (if order ≠ .lt then bs.head? else lastB?) (if order ≠ .gt then as.drop 1 else as)
        (if order ≠ .lt then bs.drop 1 else bs) (counts.modify (column - 1) (· + 1))
        (second.reverse ++ first.reverse ++ k.text column line :: found)

end Columns

/-- Compares two sorted files line by line. -/
def comm : Program := fun c =>
  c.withWords [⟨"1", [], .plain⟩, ⟨"2", [], .plain⟩, ⟨"3", [], .plain⟩,
    ⟨"check-order", ["check-order"], .plain⟩, ⟨"nocheck-order", ["nocheck-order"], .plain⟩,
    ⟨"delimiter", ["output-delimiter"], .required⟩, ⟨"total", ["total"], .plain⟩,
    ⟨"z", ["zero-terminated"], .plain⟩] fun w => do
  match w.operands with
  | [] => c.misused 1 "missing operand"
  | [a] => c.misused 1 ("missing operand after " ++ cited a)
  | _ :: _ :: extra :: _ => c.misused 1 ("extra operand " ++ cited extra)
  | [a, b] =>
    withTexts c a b fun s t => do
    let ending := if w.has "z" then '\x00' else '\n'
    let delimiter := match w.get? "delimiter" with
      | some "" => "\x00"
      | some text => text
      | none => "\t"
    let k : Columns := { hidden := [1, 2, 3].filter fun n => w.has (decimal n), delimiter, ending }
    let as := linesOf ending s
    let bs := linesOf ending t
    let (found, o, counts) :=
      k.walk (as.length + bs.length + 1) { check := orderCheckOf w } none none as bs [0, 0, 0] []
    let total := if w.has "total" then
        [Remark.output ((delimiter.intercalate (counts.map decimal ++ ["total"])).push ending)]
      else []
    writeRemarks c 0 (found.reverse ++ total ++ o.ending) {}

/-! ### Joined lines -/

/-- A field of a joined line: the common one, or one of a file. -/
inductive JoinField where
  | common
  | field (isFirst : Bool) (n : Nat)

/-- How lines are joined. -/
structure Joining where
  /-- What separates fields; blanks if nothing does. -/
  separator? : Option String := none
  firstField : Nat := 0
  secondField : Nat := 0
  ignoresCase : Bool := false
  /-- Whether lines without a counterpart are shown. -/
  showsFirst : Bool := false
  showsSecond : Bool := false
  showsPairs : Bool := true
  /-- What stands for fields that are missing. -/
  filler : String := ""
  format? : Option (List JoinField) := none
  /-- The number of fields that lines of both files are brought to. -/
  counts? : Option (Nat × Nat) := none
  ending : Char := '\n'
  firstName : String
  secondName : String

/-- A line with its fields, its number and its text. -/
structure JoinLine where
  fields : Array String
  number : Nat
  text : String

namespace Joining

/-- The fields of a line. -/
def fieldsIn (j : Joining) (line : String) : Array String :=
  match j.separator? with
  | none =>
    let (fields, last) := line.foldl (fun (fields, last) c =>
      if c = ' ' || c = '\t' || c = '\n' then (if last = "" then (fields, "") else (last :: fields, ""))
      else (fields, last.push c)) (([] : List String), "")
    (if last = "" then fields else last :: fields).reverse.toArray
  | some "" => #[line]
  | some separator => (line.splitOn separator).toArray

/-- The lines of a text. -/
def linesIn (j : Joining) (text : String) : List JoinLine :=
  (linesOf j.ending text).zipIdx.map fun (line, i) => ⟨j.fieldsIn line, i + 1, line⟩

/-- What a line is joined by. -/
def keyOf (j : Joining) (isFirst : Bool) (l : JoinLine) : String :=
  let key := l.fields.getD (if isFirst then j.firstField else j.secondField) ""
  if j.ignoresCase then String.ofList (key.toList.map Char.toUpper) else key

/-- A field, or what stands for it. -/
def shownField (j : Joining) (fields : Array String) (n : Nat) : String :=
  let field := fields.getD n ""
  if field = "" then j.filler else field

/-- The line of two lines, of which one may be missing. -/
def joined (j : Joining) (a? b? : Option JoinLine) : Remark :=
  let first := (a?.map (·.fields)).getD #[]
  let second := (b?.map (·.fields)).getD #[]
  let common := if a?.isSome then j.shownField first j.firstField
    else j.shownField second j.secondField
  let others (fields : Array String) (count : Nat) (key : Nat) : List String :=
    ((List.range count).filter (· ≠ key)).map (j.shownField fields)
  let counts := j.counts?.getD (first.size, second.size)
  let shown := match j.format? with
    | some format => format.map fun
      | .common => common
      | .field true n => j.shownField first n
      | .field false n => j.shownField second n
    | none => common :: others first counts.1 j.firstField ++ others second counts.2 j.secondField
  let separator := match j.separator? with
    | none => " "
    | some "" => "\n"
    | some s => s
  .output ((separator.intercalate shown).push j.ending)

/-- Checks the order of the first two of several lines. -/
def look (j : Joining) (o : OrderState) (isFirst : Bool) : List JoinLine → OrderState × List Remark
  | a :: b :: _ =>
    o.look isFirst (decide (j.keyOf isFirst b < j.keyOf isFirst a))
      ((if isFirst then j.firstName else j.secondName) ++ ":" ++ decimal b.number ++
        ": is not sorted: " ++ b.text)
  | _ => (o, [])

/-- Goes on over the lines that have a key, and the order of each with the next one is checked. -/
def takeRun (j : Joining) (isFirst : Bool) (key : String) :
    Nat → OrderState → List JoinLine → List JoinLine → List Remark →
    List JoinLine × List JoinLine × OrderState × List Remark
  | 0, o, run, rest, found => (run.reverse, rest, o, found)
  | steps + 1, o, run, rest, found =>
    match rest with
    | a :: _ =>
      if j.keyOf isFirst a = key then
        let (o, remarks) := j.look o isFirst rest
        j.takeRun isFirst key steps o (a :: run) (rest.drop 1) (remarks.reverse ++ found)
      else (run.reverse, rest, o, found)
    | [] => (run.reverse, [], o, found)

/-- Goes through the lines that are left of a file when the other one has ended. -/
def finishFile (j : Joining) (isFirst : Bool) :
    Nat → OrderState → List JoinLine → List Remark → OrderState × List Remark
  | 0, o, _, found => (o, found)
  | steps + 1, o, rest, found =>
    match rest with
    | [] => (o, found)
    | a :: _ =>
      let shows := if isFirst then j.showsFirst else j.showsSecond
      let found := if shows then (if isFirst then j.joined (some a) none else j.joined none (some a)) ::
        found else found
      let (o, remarks) := j.look o isFirst rest
      j.finishFile isFirst steps o (rest.drop 1) (remarks.reverse ++ found)

/-- Goes through the lines of two files. -/
def walk (j : Joining) : Nat → OrderState → List JoinLine → List JoinLine → List Remark →
    List Remark × OrderState
  | 0, o, _, _, found => (found, o)
  | steps + 1, o, as, bs, found =>
    match as, bs with
    | a :: _, b :: _ =>
      let x := j.keyOf true a
      let y := j.keyOf false b
      if x < y then
        let found := if j.showsFirst then j.joined (some a) none :: found else found
        let (o, remarks) := j.look o true as
        j.walk steps { o with hasSingle := true } (as.drop 1) bs (remarks.reverse ++ found)
      else if y < x then
        let found := if j.showsSecond then j.joined none (some b) :: found else found
        let (o, remarks) := j.look o false bs
        j.walk steps { o with hasSingle := true } as (bs.drop 1) (remarks.reverse ++ found)
      else
        let (first, as, o, found) := j.takeRun true x (as.length + 1) o [] as found
        let (second, bs, o, found) := j.takeRun false x (bs.length + 1) o [] bs found
        let pairs := first.flatMap fun a => second.map fun b => j.joined (some a) (some b)
        j.walk steps o as bs (if j.showsPairs then pairs.reverse ++ found else found)
    | as, bs =>
      let (o, found) := j.finishFile true (as.length + 1) o as found
      let (o, found) := j.finishFile false (bs.length + 1) o bs found
      (found, o)

end Joining

/-- The number of a field, counted from zero. -/
def fieldIndex? (text : String) : Except String Nat :=
  match natural? text with
  | some 0 | none => .error ("invalid field number: " ++ cited text)
  | some n => .ok (n - 1)

/-- The fields that a list asks for. -/
def readJoinFields (text : String) : Except String (List JoinField) :=
  let words := (text.toList.splitBy fun a b => isPart a && isPart b).filter (·.all isPart)
  words.mapM fun word =>
    let word := String.ofList word
    match word.toList with
    | ['0'] => .ok .common
    | '1' :: '.' :: n => (fieldIndex? (String.ofList n)).map (.field true)
    | '2' :: '.' :: n => (fieldIndex? (String.ofList n)).map (.field false)
    | '0' :: _ | ['1'] | ['2'] => .error ("invalid field specifier: " ++ cited word)
    | _ => .error ("invalid file number in field spec: " ++ cited word)
where
  /-- Whether a character is part of a field's name. -/
  isPart (c : Char) : Bool := c ≠ ',' && c ≠ ' ' && c ≠ '\t'

/-- The separator that an option names. -/
def readSeparator (text : String) : Except String String :=
  if text.length ≤ 1 then .ok text
  else if text = "\\0" then .ok "\x00"
  else .error ("multi-character tab " ++ cited text)

/-- Joins the lines of two files that have a field in common. -/
def join : Program := fun c =>
  c.withWords [⟨"a", [], .required⟩, ⟨"v", [], .required⟩, ⟨"e", [], .required⟩,
    ⟨"i", ["ignore-case"], .plain⟩, ⟨"j", [], .required⟩, ⟨"o", [], .required⟩,
    ⟨"t", [], .required⟩, ⟨"1", [], .required⟩, ⟨"2", [], .required⟩,
    ⟨"check-order", ["check-order"], .plain⟩, ⟨"nocheck-order", ["nocheck-order"], .plain⟩,
    ⟨"header", ["header"], .plain⟩, ⟨"z", ["zero-terminated"], .plain⟩] fun w => do
  let all (key : String) : List String := (w.options.filter (·.1 = key)).map (·.2)
  let settings : Except String Joining := do
    for n in all "a" ++ all "v" do
      if n ≠ "1" ∧ n ≠ "2" then .error ("invalid file number: " ++ cited n)
    let both ← (w.get? "j").mapM fieldIndex?
    let first ← (w.get? "1").mapM fieldIndex?
    let second ← (w.get? "2").mapM fieldIndex?
    let separator? ← (w.get? "t").mapM readSeparator
    let formats ← ((all "o").filter (· ≠ "auto")).mapM readJoinFields
    return {
      separator?
      firstField := (first <|> both).getD 0, secondField := (second <|> both).getD 0
      ignoresCase := w.has "i"
      showsFirst := (all "a" ++ all "v").contains "1"
      showsSecond := (all "a" ++ all "v").contains "2"
      showsPairs := !w.has "v"
      filler := (w.get? "e").getD ""
      format? := if formats.isEmpty then none else some formats.flatten
      ending := if w.has "z" then '\x00' else '\n'
      firstName := w.operands.headD "", secondName := w.operands.getD 1 "" }
  match settings, w.operands with
  | .error reason, _ => c.fail 1 reason
  | _, [] => c.misused 1 "missing operand"
  | _, [a] => c.misused 1 ("missing operand after " ++ cited a)
  | _, _ :: _ :: extra :: _ => c.misused 1 ("extra operand " ++ cited extra)
  | .ok j, [a, b] =>
    withTexts c a b fun s t => do
    let as := j.linesIn s
    let bs := j.linesIn t
    let sizeOf (ls : List JoinLine) : Nat := (ls.head?.map fun l => l.fields.size).getD 0
    let j := if all "o" = ["auto"] then { j with counts? := some (sizeOf as, sizeOf bs) } else j
    let (head, as, bs) := if w.has "header" && (!as.isEmpty || !bs.isEmpty) then
        ([j.joined as.head? bs.head?], as.drop 1, bs.drop 1)
      else ([], as, bs)
    let (found, o) :=
      j.walk (as.length + bs.length + 1) { check := orderCheckOf w } as bs []
    writeRemarks c 0 (head ++ found.reverse ++ o.ending) {}

/-! ### Differing bytes -/

/-- How two files are compared byte by byte. -/
structure ByteComparison where
  firstName : String
  secondName : String
  silent : Bool := false
  /-- Whether all differing bytes are listed, and whether their characters are shown. -/
  listsAll : Bool := false
  showsChars : Bool := false
  width : Nat := 1

namespace ByteComparison

/-- A byte in octal digits. -/
def octal (c : Char) : String :=
  padLeft 3 (String.ofList (Nat.toDigits 8 c.toNat))

/-- A byte as it is shown. -/
def charText (c : Char) : String :=
  let (mark, n) := if 128 ≤ c.toNat then ("M-", c.toNat - 128) else ("", c.toNat)
  mark ++ (if n < 32 then "^" ++ String.singleton (Char.ofNat (n + 64))
    else if n = 127 then "^?" else String.singleton (Char.ofNat n))

/-- A line about a byte that differs. -/
def difference (k : ByteComparison) (n line : Nat) (a b : Char) : String :=
  if k.listsAll then
    if k.showsChars then
      padLeft k.width (decimal n) ++ " " ++ octal a ++ " " ++ padRight 4 (charText a) ++ " " ++
        octal b ++ " " ++ charText b ++ "\n"
    else padLeft k.width (decimal n) ++ " " ++ octal a ++ " " ++ octal b ++ "\n"
  else
    k.firstName ++ " " ++ k.secondName ++ " differ: " ++ (if k.showsChars then "byte " else "char ") ++
      decimal n ++ ", line " ++ decimal line ++
      (if k.showsChars then " is " ++ octal a ++ " " ++ charText a ++ " " ++ octal b ++ " " ++ charText b
      else "") ++ "\n"

/-- What is said about a file that ends before the other one, after so many bytes. -/
def early (k : ByteComparison) (isFirst : Bool) (n line : Nat) (endsLine : Bool) : String :=
  "EOF on " ++ (if isFirst then k.firstName else k.secondName) ++
    if n = 0 then " which is empty"
    else if k.listsAll then " after byte " ++ decimal n
    else " after byte " ++ decimal n ++ (if endsLine then ", line " else ", in line ") ++
      decimal (if endsLine then line - 1 else line)

/-- Goes through the bytes of two files; gives what is said, and the status. -/
def walk (k : ByteComparison) : Nat → Nat → Bool → Nat → List Char → List Char → List Remark →
    List Remark × Nat
  | n, line, endsLine, status, as, bs, found =>
    match as, bs with
    | [], [] => (found, status)
    | [], _ => (.warning (k.early true n line endsLine) :: found, 1)
    | _, [] => (.warning (k.early false n line endsLine) :: found, 1)
    | a :: as, b :: bs =>
      let next := if a = '\n' then line + 1 else line
      if a = b then walk k (n + 1) next (a = '\n') status as bs found
      else
        let found := .output (k.difference (n + 1) line a b) :: found
        if k.listsAll then walk k (n + 1) next (a = '\n') 1 as bs found else (found, 1)

end ByteComparison

/-- Complains of how the comparison is called. -/
def cmpMisused (c : Call) (reason : String) : Action Nat := do
  c.complain reason
  c.complain ("Try '" ++ c.name ++ " --help' for more information.")
  return 2

/-- A count of bytes with a unit. -/
def byteCount? (text : String) : Option Nat := do
  let cs := text.toList
  let ds := cs.takeWhile Char.isDigit
  let n ← natural? (String.ofList ds)
  let unit ← [("", 1), ("k", 1024), ("K", 1024), ("kB", 1000), ("KB", 1000), ("M", 1048576),
    ("MB", 1000000), ("G", 1073741824), ("GB", 1000000000)].lookup
      (String.ofList (cs.drop ds.length))
  return n * unit

/-- Compares two files byte by byte. -/
def cmp : Program := fun c =>
  match Options.read [⟨"b", ["print-bytes"], .plain⟩, ⟨"c", ["print-chars"], .plain⟩,
      ⟨"i", ["ignore-initial"], .required⟩, ⟨"l", ["verbose"], .plain⟩, ⟨"n", ["bytes"], .required⟩,
      ⟨"s", ["quiet", "silent"], .plain⟩] false c.args with
  | .error reason => cmpMisused c reason
  | .ok w =>
    let count (text : String) : Except String Nat :=
      match byteCount? text with
      | some n => .ok n
      | none => .error ("invalid --ignore-initial value '" ++ text ++ "'")
    let skips : Except String (Nat × Nat) := match w.get? "i", w.operands.drop 2 with
      | some text, _ =>
        match text.splitOn ":" with
        | [a] => (count a).map fun n => (n, n)
        | a :: b :: _ => do return (← count a, ← count b)
        | [] => .ok (0, 0)
      | none, [] => .ok (0, 0)
      | none, [a] => (count a).map fun n => (n, 0)
      | none, a :: b :: _ => do return (← count a, ← count b)
    let limit? : Option Nat := match w.get? "n" with
      | some text => byteCount? text
      | none => some 9223372036854775807
    match w.operands, skips, limit? with
    | [], _, _ => cmpMisused c ("missing operand after '" ++ c.args.getLast?.getD c.name ++ "'")
    | _, .error reason, _ => cmpMisused c reason
    | _ :: _ :: _ :: _ :: extra :: _, _, _ => cmpMisused c ("extra operand '" ++ extra ++ "'")
    | _, _, none => cmpMisused c ("invalid --bytes value '" ++ (w.get? "n").getD "" ++ "'")
    | a :: rest, .ok (skipA, skipB), some limit => do
      let b := rest.headD "-"
      let sizeOf (path : String) (skip : Nat) : Action (Option Nat) := do
        let facts ← if path = "-" then ask (.openFacts 0) else ask (.facts path true)
        match facts with
        | .ok f => return if f.kind = .file then some (f.size - skip) else none
        | .error _ => return none
      let sizes := [← sizeOf a skipA, ← sizeOf b skipB].filterMap fun size? => size?
      match ← readFile a with
      | .error e => if w.has "s" then return 2 else c.fail 2 (a ++ ": " ++ e.reason)
      | .ok s =>
        let second : Except FileError String ← if a = b then pure (.ok s) else readFile b
        match second with
        | .error e => if w.has "s" then return 2 else c.fail 2 (b ++ ": " ++ e.reason)
        | .ok t =>
          let k : ByteComparison := {
            firstName := a, secondName := b, silent := w.has "s", listsAll := w.has "l"
            showsChars := w.has "b" || w.has "c"
            width := (decimal (sizes.foldl min limit)).length }
          let (found, status) := k.walk 0 1 false 0 ((s.toList.drop skipA).take limit)
            ((t.toList.drop skipB).take limit) []
          if k.silent then return status else writeRemarks c status found.reverse {}

end LuaBundler.Utility
