import LuaBundler.Utility.Options

/-!
# Utilities: streams

Copying files to the output, the input to files, and what becomes of the texts of files to the
output.
-/

namespace LuaBundler.Utility

open LuaBundler.Files LuaBundler.System LuaBundler.Text

/-! ### Copying -/

/-- How `cat` changes what it copies. -/
structure CopyStyle where
  numbers : Bool := false
  numbersFilled : Bool := false
  squeezes : Bool := false
  endMarks : Bool := false
  tabMarks : Bool := false
  showsHidden : Bool := false

namespace CopyStyle

/-- Whether a copy is as the original. -/
def isPlain (s : CopyStyle) : Bool :=
  !(s.numbers || s.numbersFilled || s.squeezes || s.endMarks || s.tabMarks || s.showsHidden)

/-- A character below 128 as it is shown. -/
def visibleLow (c : Char) : String :=
  let n := c.toNat
  if n < 32 then "^" ++ String.singleton (Char.ofNat (n + 64))
  else if n = 127 then "^?"
  else String.singleton c

/-- A character as it is shown. -/
def visible (s : CopyStyle) (c : Char) : String :=
  if c = '\t' then (if s.tabMarks then "^I" else "\t")
  else if !s.showsHidden then String.singleton c
  else if c.toNat < 128 then visibleLow c
  else "M-" ++ visibleLow (Char.ofNat (c.toNat - 128))

/-- Where a copy stands: the number of the last line, how many empty lines have come, and whether a
line is going on. -/
structure State where
  line : Nat := 0
  empty : Nat := 0
  isInside : Bool := false

/-- Copies a character. -/
def copyChar (s : CopyStyle) (st : State) (c : Char) : String × State :=
  if c = '\n' then
    let isEmpty := !st.isInside
    let st := if isEmpty then { st with empty := st.empty + 1 } else { st with empty := 0 }
    if isEmpty && s.squeezes && 1 < st.empty then ("", st)
    else
      let counts := isEmpty && s.numbers && !s.numbersFilled
      let line := if counts then st.line + 1 else st.line
      let number := if counts then padLeft 6 (decimal line) ++ "\t" else ""
      (number ++ (if s.endMarks then "$\n" else "\n"), { st with line, isInside := false })
  else
    let starts := !st.isInside && (s.numbers || s.numbersFilled)
    let line := if starts then st.line + 1 else st.line
    let number := if starts then padLeft 6 (decimal line) ++ "\t" else ""
    (number ++ s.visible c, { line, empty := 0, isInside := true })

/-- Copies a text. -/
def copy (s : CopyStyle) (st : State) (text : String) : String × State :=
  text.foldl (fun (out, st) c =>
    let (more, st) := s.copyChar st c
    (out ++ more, st)) ("", st)

end CopyStyle

/-- How copying a file ended. -/
inductive CopyEnd where
  | done
  | unreadable (e : FileError)
  | unwritable (e : FileError)

/-- Copies what a number stands for to the output. -/
def copyNumber (style : CopyStyle) (number : Nat) :
    Nat → CopyStyle.State → Action (CopyEnd × CopyStyle.State)
  | 0, st => return (.done, st)
  | steps + 1, st => do
    match ← readPiece number with
    | .error e => return (.unreadable e, st)
    | .ok bytes =>
      if bytes.size = 0 then return (.done, st)
      else
        let (failure, st) ← if style.isPlain then do
            pure (← writeBytes 1 bytes, st)
          else do
            let (text, st) := style.copy st (octetsOfArray bytes)
            pure (← write 1 text, st)
        match failure with
        | some e => return (.unwritable e, st)
        | none => copyNumber style number steps st

/-- Whether a file is the output, which would grow while it is copied. -/
def isOutput (number : Nat) : Action Bool := do
  match ← ask (.openFacts number), ← ask (.openFacts 1) with
  | .ok f, .ok g => return f.kind = .file && f.number = g.number && 0 < f.size
  | _, _ => return false

/-- Copies files to the output one after the other. -/
def copyFiles (c : Call) (style : CopyStyle) (st : CopyStyle.State) (status : Nat) :
    List String → Action Nat
  | [] => return status
  | path :: paths => do
    let opened ← if path = "-" then pure (.ok 0) else ask (.open path { read := true })
    match opened with
    | .error e =>
      c.complainOf path e
      copyFiles c style st 1 paths
    | .ok number =>
      if ← isOutput number then
        c.complain (shown path ++ ": input file is output file")
        if path ≠ "-" then discard (ask (.close number))
        copyFiles c style st 1 paths
      else
        let (ending, st) ← copyNumber style number maxSteps st
        if path ≠ "-" then discard (ask (.close number))
        match ending with
        | .done => copyFiles c style st status paths
        | .unreadable e =>
          c.complainOf path e
          copyFiles c style st 1 paths
        | .unwritable e => c.fail 1 ("write error: " ++ e.reason)

/-- Copies files to the output. -/
def cat : Program := fun c =>
  c.withWords [⟨"A", ["show-all"], .plain⟩, ⟨"b", ["number-nonblank"], .plain⟩, ⟨"e", [], .plain⟩,
    ⟨"E", ["show-ends"], .plain⟩, ⟨"n", ["number"], .plain⟩, ⟨"s", ["squeeze-blank"], .plain⟩,
    ⟨"t", [], .plain⟩, ⟨"T", ["show-tabs"], .plain⟩, ⟨"u", [], .plain⟩,
    ⟨"v", ["show-nonprinting"], .plain⟩] fun w => do
    match ← ask (.openFacts 1) with
    | .error e => c.fail 1 ("standard output: " ++ e.reason)
    | .ok _ =>
      let style : CopyStyle := {
        numbers := w.has "n", numbersFilled := w.has "b", squeezes := w.has "s"
        endMarks := w.has "E" || w.has "e" || w.has "A"
        tabMarks := w.has "T" || w.has "t" || w.has "A"
        showsHidden := w.has "v" || w.has "e" || w.has "t" || w.has "A" }
      copyFiles c style {} 0 (if w.operands.isEmpty then ["-"] else w.operands)

/-! ### Copying to several files -/

/-- Opens the files that `tee` copies to. -/
def openTargets (c : Call) (appends : Bool) : List String → Action (List (String × Nat) × Nat)
  | [] => return ([], 0)
  | path :: paths => do
    match ← ask (.open path
        { write := true, create := true, append := appends, truncate := !appends }) with
    | .ok number =>
      let (rest, status) ← openTargets c appends paths
      return ((path, number) :: rest, status)
    | .error e =>
      c.complainOf path e
      let (rest, _) ← openTargets c appends paths
      return (rest, 1)

/-- Writes a piece to several files; gives those that it could be written to. -/
def writeTargets (c : Call) (bytes : ByteArray) :
    List (String × Nat) → Action (List (String × Nat) × Nat)
  | [] => return ([], 0)
  | (path, number) :: rest => do
    match ← writeBytes number bytes with
    | none =>
      let (left, status) ← writeTargets c bytes rest
      return ((path, number) :: left, status)
    | some e =>
      c.complainOf path e
      let (left, _) ← writeTargets c bytes rest
      return (left, 1)

/-- Copies the input to several files. -/
def copyInput (c : Call) (targets : List (String × Nat)) (status : Nat) : Nat → Action Nat
  | 0 => return status
  | steps + 1 => do
    match ← readPiece 0 with
    | .error e => c.fail 1 ("read error: " ++ e.reason)
    | .ok bytes =>
      if bytes.size = 0 then return status
      else
        let (targets, failed) ← writeTargets c bytes targets
        if targets.isEmpty then return max status failed
        else copyInput c targets (max status failed) steps

/-- Copies the input to the output and to files. -/
def tee : Program := fun c =>
  c.withWords [⟨"a", ["append"], .plain⟩, ⟨"i", ["ignore-interrupts"], .plain⟩,
    ⟨"p", ["output-error"], .plain⟩] fun w => do
    if w.has "i" then ask (.react 2 .ignore)
    let (targets, status) ← openTargets c (w.has "a") w.operands
    copyInput c (("standard output", 1) :: targets) status maxSteps

/-! ### Texts of files -/

/-- The texts that are read of paths one after the other; what cannot be read is told of. -/
def readFilesWith (read : String → Action (Except FileError String))
    (tell : String → FileError → Action Unit) : List String → Action (List String × Nat)
  | [] => return ([], 0)
  | path :: paths => do
    match ← read path with
    | .ok text =>
      let (texts, status) ← readFilesWith read tell paths
      return (text :: texts, status)
    | .error e =>
      tell path e
      let (texts, _) ← readFilesWith read tell paths
      return (texts, 1)

/-- The texts of files one after the other; it is complained of those that cannot be read. -/
def readFiles (c : Call) (paths : List String) : Action (List String × Nat) :=
  readFilesWith readFile c.complainOf paths

/-- The operands, or the input if there are none. -/
def Words.files (w : Words) : List String :=
  if w.operands.isEmpty then ["-"] else w.operands

/-- Prints what becomes of texts of files. What becomes of the texts so far, of which so many
characters were printed, is printed before it is complained of a file. -/
def filterFrom (c : Call) (f : List String → String) (texts : List String) (printed status : Nat) :
    List String → Action Nat
  | [] => c.finish (String.ofList ((f texts).toList.drop printed)) status
  | path :: paths => do
    match ← readFile path with
    | .ok text => filterFrom c f (texts ++ [text]) printed status paths
    | .error e =>
      let out := (f texts).toList
      discard (write 1 (String.ofList (out.drop printed)))
      c.complainOf path e
      filterFrom c f texts (max printed out.length) 1 paths

/-- Prints what becomes of the texts of files. -/
def filter (c : Call) (paths : List String) (f : List String → String) : Action Nat :=
  filterFrom c f [] 0 0 paths

end LuaBundler.Utility
