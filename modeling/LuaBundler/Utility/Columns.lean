import LuaBundler.Text.Split
import LuaBundler.Utility.Streams

/-!
# Utilities: columns

Lines as they are seen on paper: folding long ones, and putting spaces for tabs or tabs for spaces.
A tab goes on to the next stop, a backspace goes one column back.
-/

namespace LuaBundler.Utility

open LuaBundler.Files LuaBundler.System LuaBundler.Text

/-! ### Folding -/

/-- How lines are folded. -/
structure FoldStyle where
  width : Nat
  countsBytes : Bool := false
  atBlanks : Bool := false

namespace FoldStyle

/-- The column after a character. -/
def after (s : FoldStyle) (column : Nat) (c : Char) : Nat :=
  if s.countsBytes then column + 1
  else match c with
    | '\x08' => column - 1
    | '\r' => 0
    | '\t' => column + (8 - column % 8)
    | _ => column + 1

/-- The column after characters. -/
def columnOf (s : FoldStyle) (cs : List Char) : Nat :=
  cs.foldl s.after 0

/-- A line that is being folded: what was put out, and the characters since, the last one first. -/
structure Line where
  out : String := ""
  last : List Char := []
  column : Nat := 0

/-- A line with the characters since the last break put out. -/
def Line.flush (l : Line) : String :=
  l.out ++ String.ofList l.last.reverse

/-- Adds a character to a line, after a break if it is too long for it; a break at a blank leaves
what comes after the blank, and may have to be followed by another one. -/
def add (s : FoldStyle) (c : Char) : Nat → Line → Line
  | 0, l => l
  | steps + 1, l =>
    let column := s.after l.column c
    if column ≤ s.width then { l with last := c :: l.last, column }
    else
      let rest := l.last.takeWhile fun d => d ≠ ' ' && d ≠ '\t'
      if s.atBlanks && rest.length < l.last.length then
        let out := l.out ++ String.ofList (l.last.drop rest.length).reverse ++ "\n"
        s.add c steps { out, last := rest, column := s.columnOf rest.reverse }
      else if l.last.isEmpty then { l with last := [c], column }
      else s.add c steps { out := l.flush ++ "\n" }

/-- A text with its lines folded. -/
def apply (s : FoldStyle) (text : String) : String :=
  let l := text.foldl (fun (l : Line) c =>
    if c = '\n' then { out := l.flush ++ "\n" } else s.add c (l.last.length + 3) l) {}
  l.flush

end FoldStyle

/-- Arguments in which a number after a minus sign is the width. -/
def widthArgs : List String → List String
  | [] => []
  | arg :: rest =>
    match arg.toList with
    | '-' :: c :: cs =>
      if c.isDigit then ("-w" ++ String.ofList (c :: cs)) :: widthArgs rest
      else if arg = "--" then arg :: rest
      else arg :: widthArgs rest
    | _ => arg :: widthArgs rest

/-- Copies files with their lines folded. -/
def fold : Program := fun c =>
  { c with args := widthArgs c.args }.withWords [⟨"b", ["bytes"], .plain⟩,
    ⟨"s", ["spaces"], .plain⟩, ⟨"w", ["width"], .required⟩] fun w => do
  let text := (w.get? "w").getD "80"
  match natural? text with
  | none => c.fail 1 ("invalid number of columns: " ++ cited text)
  | some 0 =>
    c.fail 1 ("invalid number of columns: " ++ cited text ++ ": Numerical result out of range")
  | some width =>
    let style : FoldStyle := { width, countsBytes := w.has "b", atBlanks := w.has "s" }
    filter c w.files fun texts => "".intercalate (texts.map style.apply)

/-! ### Tabs -/

/-- Where tabs stop: in some columns, and after those in every so many columns, counted from the
first column or from the last of them. -/
structure Stops where
  columns : List Nat := []
  every? : Option Nat := some 8
  fromLast : Bool := false

namespace Stops

/-- The stop after a column, if there is one. -/
def next? (s : Stops) (column : Nat) : Option Nat :=
  match s.columns.find? (column < ·) with
  | some stop => some stop
  | none => s.every?.map fun n =>
    let start := if s.fromLast then s.columns.getLast?.getD 0 else 0
    column + (n - (column - start) % n)

/-- Stops that are being read: the digits that were read last, and whether a plus sign or a slash
says what comes after all others. -/
structure Draft where
  stops : Stops := { every? := none }
  digits : List Char := []
  mark? : Option Char := none

namespace Draft

/-- The draft after the end of a number. -/
def close (d : Draft) : Except String Draft := do
  let text := String.ofList d.digits
  match natural? text, d.mark? with
  | none, _ => return d
  | some n, mark? =>
    if 18446744073709551615 < n then .error ("tab stop is too large " ++ cited text)
    else match mark? with
      | none => return { d with stops := { d.stops with columns := d.stops.columns ++ [n] }, digits := [] }
      | some mark =>
        if d.stops.every?.isSome && d.stops.fromLast = (mark = '+') then
          .error ("'" ++ String.singleton mark ++ "' specifier only allowed with the last value")
        else if d.stops.every?.isSome then .error "'/' specifier is mutually exclusive with '+'"
        else return { d with
          stops := { d.stops with every? := if n = 0 then none else some n, fromLast := mark == '+' }
          digits := [] }

/-- Reads stops from a text on. -/
def read : List Char → Draft → Except String Stops
  | [], d => return (← d.close).stops
  | c :: cs, d => do
    if c = ',' || c = ' ' || c = '\t' then read cs (← d.close)
    else if c = '/' || c = '+' then
      if d.digits ≠ [] then
        .error ("'" ++ String.singleton c ++ "' specifier not at start of number: " ++
          cited (String.ofList (c :: cs)))
      else read cs { d with mark? := some c }
    else if c.isDigit then read cs { d with digits := d.digits ++ [c] }
    else .error ("tab size contains invalid character(s): " ++ cited (String.ofList (c :: cs)))

end Draft

/-- Reads stops. -/
def read (text : String) : Except String Stops := do
  let s ← Draft.read text.toList {}
  if s.columns.any (· = 0) then .error "tab size cannot be 0"
  else if (s.columns.zip (s.columns.drop 1)).any fun p => p.2 ≤ p.1 then
    .error "tab sizes must be ascending"
  else match s.columns, s.every? with
    | [n], none => return { every? := some n }
    | [], none => return {}
    | _, _ => return s

end Stops

/-- The column before another one. -/
def columnBack (column : Nat) : Nat :=
  column - 1

/-- A line with spaces for its tabs, or for those before anything else. -/
def expandLine (s : Stops) (all : Bool) : Nat → List Char → List Char → List Char
  | _, [], out => out
  | column, c :: cs, out =>
    let goesOn := all || c = ' ' || c = '\t'
    let rest (column : Nat) (out : List Char) : List Char :=
      if goesOn then expandLine s all column cs out else cs.reverse ++ out
    match c with
    | '\t' =>
      let stop := (s.next? column).getD (column + 1)
      rest stop (List.replicate (stop - column) ' ' ++ out)
    | '\x08' => rest (columnBack column) (c :: out)
    | c => rest (column + 1) (c :: out)

/-- A line in which spaces are being replaced: what was put out, the last character first, the
blanks that may still be replaced, and where the line has come. -/
structure Blanks where
  out : List Char := []
  pending : List Char := []
  column : Nat := 0
  /-- Whether one blank just before a stop is kept. -/
  keepsOne : Bool := false
  wasBlank : Bool := true

namespace Blanks

/-- Puts out the blanks that were not replaced. -/
def flush (b : Blanks) : Blanks :=
  let pending := match b.pending with
    | _ :: d :: ds => if b.keepsOne then '\t' :: d :: ds else b.pending
    | ds => ds
  { b with out := pending.reverse ++ b.out, pending := [], keepsOne := false }

/-- Adds a character that is put out. -/
def put (b : Blanks) (c : Char) : Blanks :=
  { b with out := c :: b.out }

end Blanks

/-- A line with tabs for its blanks, or for those before anything else. -/
def unexpandLine (s : Stops) (all : Bool) : List Char → Blanks → Blanks
  | [], b => b.flush
  | c :: cs, b =>
    let isBlank := c = ' ' || c = '\t'
    let rest (b : Blanks) : Blanks :=
      if all || isBlank then unexpandLine s all cs { b with wasBlank := isBlank }
      else { b with out := cs.reverse ++ b.out }
    if isBlank then
      match s.next? b.column with
      | none =>
        let b := (b.flush).put c
        { b with out := cs.reverse ++ b.out }
      | some stop =>
        if c = '\t' then
          let pending := if b.pending.isEmpty then [] else '\t' :: b.pending.drop 1
          let pending := pending.take (if b.keepsOne then 1 else 0)
          rest ((({ b with column := stop, pending } : Blanks).flush).put c)
        else
          let column := b.column + 1
          if b.wasBlank && column = stop then
            let pending := ('\t' :: b.pending.drop 1).take (if b.keepsOne then 1 else 0)
            rest ((({ b with column, pending } : Blanks).flush).put '\t')
          else
            unexpandLine s all cs { b with
              column, keepsOne := b.keepsOne || column = stop, pending := b.pending ++ [c]
              wasBlank := true }
    else
      let column := if c = '\x08' then columnBack b.column else b.column + 1
      rest ((({ b with column } : Blanks).flush).put c)

/-- The lines of a text, each changed. -/
def mapLines (f : List Char → List Char) (text : String) : String :=
  "\n".intercalate ((Text.splitOn '\n' text.toList).map fun cs => String.ofList (f cs))

/-- Arguments in which numbers after a minus sign are stops. -/
def stopArgs : List String → List String
  | [] => []
  | arg :: rest =>
    match arg.toList with
    | '-' :: c :: cs =>
      if c.isDigit then ("-t" ++ String.ofList (c :: cs)) :: stopArgs rest
      else if arg = "--" then arg :: rest
      else arg :: stopArgs rest
    | _ => arg :: stopArgs rest

/-- Goes on with the stops that options give. -/
def withStops (c : Call) (w : Words) (f : Stops → Action Nat) : Action Nat :=
  let texts := (w.options.filter (·.1 == "t")).map (·.2)
  match Stops.read (",".intercalate texts) with
  | .ok s => f s
  | .error reason => c.fail 1 reason

/-- Copies files with spaces for tabs. -/
def expand : Program := fun c =>
  { c with args := stopArgs c.args }.withWords [⟨"i", ["initial"], .plain⟩,
    ⟨"t", ["tabs"], .required⟩] fun w =>
  withStops c w fun s =>
    filter c w.files fun texts =>
      mapLines (fun cs => (expandLine s (!w.has "i") 0 cs []).reverse) ("".intercalate texts)

/-- Copies files with tabs for spaces. -/
def unexpand : Program := fun c =>
  { c with args := stopArgs c.args }.withWords [⟨"a", ["all"], .plain⟩,
    ⟨"first-only", ["first-only"], .plain⟩, ⟨"t", ["tabs"], .required⟩] fun w =>
  withStops c w fun s =>
    let all := (w.has "a" || w.has "t") && !w.has "first-only"
    filter c w.files fun texts =>
      mapLines (fun cs => (unexpandLine s all cs {}).out.reverse) ("".intercalate texts)

end LuaBundler.Utility
