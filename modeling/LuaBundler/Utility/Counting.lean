import LuaBundler.Text.Split
import LuaBundler.Utility.Amounts
import LuaBundler.Utility.Regex.Reader
import LuaBundler.Utility.Streams

/-!
# Utilities: counting

Counting the lines, words and bytes of files, and numbering lines. What is numbered may be divided
into sections: headers, bodies and footers, each of which has a style of its own.
-/

namespace LuaBundler.Utility

open LuaBundler.Files LuaBundler.System LuaBundler.Text

/-! ### Counting -/

/-- What is counted of a text. -/
structure Counts where
  lines : Nat := 0
  words : Nat := 0
  chars : Nat := 0
  width : Nat := 0

/-- Whether a character is between words. -/
def isBlankChar (c : Char) : Bool :=
  c = ' ' || (9 ≤ c.toNat && c.toNat ≤ 13)

/-- Counts what a text holds. -/
def countText (text : String) : Counts :=
  let (counts, _, column) := text.foldl (fun (n, inWord, column) c =>
    let isWord := !isBlankChar c && isPrintable c
    let n : Counts := { n with
      chars := n.chars + 1
      lines := if c = '\n' then n.lines + 1 else n.lines
      words := if isWord && !inWord then n.words + 1 else n.words
      width := if c = '\n' ∨ c = '\r' ∨ c = '\x0c' then max n.width column else n.width }
    let column := if c = '\n' ∨ c = '\r' ∨ c = '\x0c' then 0
      else if c = '\t' then column + (8 - column % 8)
      else if isPrintable c then column + 1 else column
    (n, if isBlankChar c then false else inWord || isWord, column)) (({} : Counts), false, 0)
  { counts with width := max counts.width column }

/-- The sum of counts. -/
def Counts.plus (a b : Counts) : Counts :=
  ⟨a.lines + b.lines, a.words + b.words, a.chars + b.chars, max a.width b.width⟩

/-- The counts that are asked for. -/
def Counts.shown (n : Counts) (w : Words) : List Nat :=
  let all := !(w.has "l" || w.has "w" || w.has "m" || w.has "c" || w.has "L")
  (if all || w.has "l" then [n.lines] else []) ++ (if all || w.has "w" then [n.words] else []) ++
    (if w.has "m" then [n.chars] else []) ++ (if all || w.has "c" then [n.chars] else []) ++
    (if w.has "L" then [n.width] else [])

/-- The number of digits of a number. -/
def digitCount (n : Nat) : Nat :=
  (decimal n).length

/-- The width of the columns of counts: enough for the sizes of regular files together. -/
def countWidth (w : Words) (facts : List (Option Facts)) : Nat :=
  if facts.length = 1 ∧ (Counts.shown {} w).length = 1 then 1
  else
    let known := facts.filterMap id
    let total := known.foldl (fun n f => if f.kind = .file then n + f.size else n) 0
    max (digitCount total) (if known.any (·.kind != .file) then 7 else 1)

/-- A line of counts. -/
def countLine (w : Words) (width : Nat) (name? : Option String) (n : Counts) : String :=
  " ".intercalate ((n.shown w).map fun k => padLeft width (decimal k)) ++
    (match name? with
      | some name => " " ++ name
      | none => "") ++ "\n"

/-- What is known of the files of operands. -/
def factsOfFiles : List String → Action (List (Option Facts))
  | [] => return []
  | path :: paths => do
    let f ← if path = "-" then do
        match ← ask (.openFacts 0) with
        | .ok f => pure (some f)
        | .error _ => pure none
      else facts? path true
    return f :: (← factsOfFiles paths)

/-- How `wc` goes on: where the names of files come from, and how wide columns are. -/
structure Census where
  words : Words
  width : Nat
  isNamed : Bool
  /-- Whether files have lines of their own. -/
  hasLines : Bool
  /-- The file that names were read from, if they were not given. -/
  source? : Option String

/-- Counts what files hold; `index` is the number of the first one. -/
def countFiles (c : Call) (k : Census) (total : Counts) (status index : Nat) :
    List String → Action (Counts × Nat)
  | [] => return (total, status)
  | path :: paths => do
    let line (n : Counts) : Action Unit :=
      if k.hasLines then
        discard (write 1 (countLine k.words k.width (if k.isNamed then some path else none) n))
      else return ()
    if path = "" then
      c.complain ((match k.source? with
        | some source => shown source ++ ":" ++ decimal index ++ ": "
        | none => "") ++ "invalid zero-length file name")
      countFiles c k total 1 (index + 1) paths
    else match ← readFile path with
    | .ok text =>
      let n := countText text
      line n
      countFiles c k (total.plus n) status (index + 1) paths
    | .error e =>
      c.complainOf path e
      if e = .isDirectory then line {}
      countFiles c k total 1 (index + 1) paths

/-- The names of the files that are counted, or why they cannot be read. -/
def namesToCount (w : Words) : Action (Except FileError (List String)) := do
  match w.get? "files0-from" with
  | none => return .ok w.files
  | some path => return (← readFile path).map (linesOf '\x00')

/-- Counts lines, words and bytes. -/
def wc : Program := fun c =>
  c.withWords [⟨"c", ["bytes"], .plain⟩, ⟨"l", ["lines"], .plain⟩, ⟨"w", ["words"], .plain⟩,
    ⟨"m", ["chars"], .plain⟩, ⟨"L", ["max-line-length"], .plain⟩,
    ⟨"files0-from", ["files0-from"], .required⟩, ⟨"total", ["total"], .required⟩,
    ⟨"debug", ["debug"], .plain⟩] fun w => do
  let source? := w.get? "files0-from"
  match namedValue "--total" [["auto"], ["always"], ["only"], ["never"]]
      ((w.get? "total").getD "auto"), source?, w.operands with
  | .error reason, _, _ => c.misused 1 reason
  | _, some _, extra :: _ => c.misused 1 ("extra operand " ++ cited extra ++
      "\nfile operands cannot be combined with --files0-from")
  | .ok mode, _, _ =>
    match ← namesToCount w with
    | .error e =>
      c.fail 1 ("cannot open " ++ quoted (source?.getD "") ++ " for reading: " ++ e.reason)
    | .ok names =>
      let isNarrow := mode = "only" || source? = some "-"
      let width ← if isNarrow then pure 1 else pure (countWidth w (← factsOfFiles names))
      let k : Census := { words := w, width, source?, hasLines := mode ≠ "only"
                          isNamed := source?.isSome || !w.operands.isEmpty }
      let (total, status) ← countFiles c k {} 0 1 names
      match mode with
      | "only" => c.finish (countLine w 1 none total) status
      | "never" => return status
      | _ =>
        if mode = "always" || 1 < names.length then
          c.finish (countLine w width (some "total") total) status
        else return status

/-! ### Numbering -/

/-- Which lines are numbered. -/
inductive NumberedLines where
  | all
  | filled
  | none
  | matching (p : Regex.Compiled)

/-- Reads which lines are numbered. -/
def NumberedLines.read (part text : String) : Except (String × Bool) NumberedLines :=
  match text.toList with
  | ['a'] => .ok .all
  | ['t'] => .ok .filled
  | ['n'] => .ok .none
  | 'p' :: pattern =>
    match Regex.read { isExtended := false, isTolerant := false } (String.ofList pattern) with
    | .ok p => .ok (.matching p.compiled)
    | .error flaw => .error (flaw.message, false)
  | _ => .error ("invalid " ++ part ++ " numbering style: " ++ cited text, true)

/-- How lines are numbered. -/
structure Numbering where
  header : NumberedLines
  body : NumberedLines
  footer : NumberedLines
  /-- What the lines that divide sections are made of. -/
  mark : String
  first : Int
  step : Int
  /-- Whether numbers start anew in each section. -/
  renews : Bool
  /-- How many empty lines count as one. -/
  joins : Nat
  width : Nat
  separator : String
  format : String

namespace Numbering

/-- Reads options. The failure comes with whether it is one of how the options are used. -/
def read (w : Words) : Except (String × Bool) Numbering := do
  let plain {α : Type} (e : Except String α) : Except (String × Bool) α :=
    e.mapError fun reason => (reason, false)
  let number (key what standard : String) (least : Int) : Except (String × Bool) Int :=
    plain (readWithinBounds what least ((w.get? key).getD standard))
  let free (key what : String) : Except (String × Bool) Int :=
    let text := (w.get? key).getD "1"
    match ({ isSigned := true, least := -(largestWord : Int) } : AmountStyle).read text with
    | .ok n => .ok n
    | .error f => .error (f.message what text, false)
  let style (key part standard : String) : Except (String × Bool) NumberedLines :=
    NumberedLines.read part ((w.get? key).getD standard)
  let format := (w.get? "n").getD "rn"
  if !(["ln", "rn", "rz"].contains format) then
    .error ("invalid line numbering format: " ++ cited format, true)
  let mark := (w.get? "d").getD "\\:"
  return {
    header := ← style "h" "header" "n"
    body := ← style "b" "body" "t"
    footer := ← style "f" "footer" "n"
    mark := if mark.length = 1 then mark ++ ":" else mark
    first := ← free "v" "starting line number"
    step := ← free "i" "line number increment"
    renews := !w.has "p"
    joins := (← number "l" "line number of blank lines" "1" 1).toNat
    width := (← number "w" "line number field width" "6" 1).toNat
    separator := (w.get? "s").getD "\t"
    format }

/-- A number in its column. -/
def column (k : Numbering) (n : Int) : String :=
  let digits := decimal n.natAbs
  let sign := if n < 0 then "-" else ""
  match k.format with
  | "ln" => padRight k.width (sign ++ digits)
  | "rz" => sign ++
      String.ofList (List.replicate (k.width - sign.length - digits.length) '0') ++ digits
  | _ => padLeft k.width (sign ++ digits)

/-- Where numbering has come: what was put out, the section, the number of the next line, and how
many empty lines have come. -/
structure State where
  out : String := ""
  style : NumberedLines
  next : Int
  empty : Nat := 0

/-- Puts out a line with its number, or without one. -/
def put (k : Numbering) (isNumbered : Bool) (line : String) (s : State) : State :=
  if isNumbered then
    { s with out := s.out ++ k.column s.next ++ k.separator ++ line ++ "\n", next := s.next + k.step }
  else
    let blanks := String.ofList (List.replicate (k.width + k.separator.length) ' ')
    { s with out := s.out ++ blanks ++ line ++ "\n" }

/-- The section that a line starts. -/
def sectionOf? (k : Numbering) (line : String) : Option NumberedLines :=
  if k.mark = "" then Option.none
  else if line = k.mark ++ k.mark ++ k.mark then some k.header
  else if line = k.mark ++ k.mark then some k.body
  else if line = k.mark then some k.footer
  else Option.none

/-- Goes on with a line. -/
def add (k : Numbering) (s : State) (line : String) : State :=
  match k.sectionOf? line with
  | some style =>
    { s with style := style, out := s.out ++ "\n", next := if k.renews then k.first else s.next }
  | Option.none =>
    match s.style with
    | .none => k.put false line s
    | .filled => k.put (line ≠ "") line s
    | .matching p => k.put (p.search? (arrayOfOctets line) 0 false).isSome line s
    | .all =>
      if k.joins ≤ 1 then k.put true line s
      else if line ≠ "" || s.empty + 1 = k.joins then { k.put true line s with empty := 0 }
      else { k.put false line s with empty := s.empty + 1 }

end Numbering

/-- Numbers lines. -/
def nl : Program := fun c =>
  c.withWords [⟨"b", ["body-numbering"], .required⟩, ⟨"d", ["section-delimiter"], .required⟩,
    ⟨"f", ["footer-numbering"], .required⟩, ⟨"h", ["header-numbering"], .required⟩,
    ⟨"i", ["line-increment"], .required⟩, ⟨"l", ["join-blank-lines"], .required⟩,
    ⟨"n", ["number-format"], .required⟩, ⟨"p", ["no-renumber"], .plain⟩,
    ⟨"s", ["number-separator"], .required⟩, ⟨"v", ["starting-line-number"], .required⟩,
    ⟨"w", ["number-width"], .required⟩] fun w =>
  match Numbering.read w with
  | .error (reason, true) => c.misused 1 reason
  | .error (reason, false) => c.fail 1 reason
  | .ok k => filter c w.files fun texts =>
      let lines := texts.flatMap (linesOf '\n')
      (lines.foldl k.add { style := k.body, next := k.first }).out

end LuaBundler.Utility
