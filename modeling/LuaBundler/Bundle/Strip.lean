import LuaBundler.Bundle.Document
import LuaBundler.Text.Blank

/-!
# Stripping runtime modules

The modules that the deployment runtime supplies are taken out of a finished bundle. A document
loses them by name. In text, the block of a name starts at the first line that opens a registration
of that name in either quote style, and ends before the next line that opens a registration or the
epilogue; it has to end in `end)`. All other text is kept as it is.

A name without a block is reported as missing. A document never loses the entry module.
-/

namespace LuaBundler.Bundle

open LuaBundler.Text

/-- Why a bundle text cannot be stripped. -/
inductive StripError where
  /-- The block of a module does not end in `end)`. -/
  | unterminatedBlock (module : String)
  /-- The name of a module makes no usable search pattern. -/
  | pattern (module reason : String)
  /-- One block carries the names of two modules. -/
  | sharedBlock (module : String)
  deriving Repr, DecidableEq

/-- The wording of each cause. -/
def StripError.message : StripError → String
  | unterminatedBlock module =>
    "registration block for '" ++ module ++ "' does not end with `end)`"
  | pattern module reason =>
    "invalid registration pattern for '" ++ module ++ "': " ++ reason
  | sharedBlock module =>
    "registration block for '" ++ module ++ "' belongs to another module as well"

/-- Which names were taken out, and which had nothing to take out, each in the order asked for. -/
structure StripReport where
  stripped : List String
  missing : List String
  deriving Repr, DecidableEq

/-- A stripped bundle text and its report. -/
structure Stripped where
  text : String
  report : StripReport
  deriving Repr, DecidableEq

namespace StripReport

/-- The report of nothing. -/
def empty : StripReport := ⟨[], []⟩

/-- Adds a name that was taken out. -/
def strip (r : StripReport) (name : String) : StripReport :=
  { r with stripped := r.stripped ++ [name] }

/-- Adds a name that had nothing to take out. -/
def miss (r : StripReport) (name : String) : StripReport :=
  { r with missing := r.missing ++ [name] }

end StripReport

/-! ### Documents -/

/-- Takes one name out of a document, the entry module excepted. -/
def Document.stripOne (state : Document × StripReport) (name : String) : Document × StripReport :=
  if name ≠ rootName ∧ name ∈ state.1.names then (state.1.erase name, state.2.strip name)
  else (state.1, state.2.miss name)

/-- Takes names out of a document. -/
def Document.strip (d : Document) (globals : List String) : Document × StripReport :=
  globals.foldl Document.stripOne (d, .empty)

/-! ### Blocks of a text -/

/-- The rest of a text at each of its line starts, with its position. -/
def lineStartsFrom (position : Nat) (atStart : Bool) : List Char → List (Nat × List Char)
  | [] => if atStart then [(position, [])] else []
  | c :: cs =>
    let later := lineStartsFrom (position + 1) (c = '\n') cs
    if atStart then (position, c :: cs) :: later else later

/-- The rest of a text at each of its line starts, with its position. -/
def lineStarts (cs : List Char) : List (Nat × List Char) :=
  lineStartsFrom 0 true cs

/-- Whether a line opens a registration or the epilogue. -/
def opensBlock (line : List Char) : Bool :=
  registerCall.toList.isPrefixOf line || rootRequireCall.toList.isPrefixOf line

/-- Whether a text continues with a name between two given quotes and a comma. -/
def namedBetween (quote : Char) (name : List Char) (cs : List Char) : Bool :=
  let literal := quote :: name ++ [quote]
  literal.isPrefixOf cs && [','].isPrefixOf (dropBlanks (cs.drop literal.length))

/-- Whether a line opens the registration of a name. -/
def registers (name : List Char) (line : List Char) : Bool :=
  registerCall.toList.isPrefixOf line &&
    let argument := dropBlanks (line.drop registerCall.length)
    namedBetween '"' name argument || namedBetween '\'' name argument

/-- The lines that can end a block. -/
def boundaries (cs : List Char) : List Nat :=
  ((lineStarts cs).filter fun line => opensBlock line.2).map (·.1)

/-- Where the block of a name starts. -/
def blockStart? (cs : List Char) (name : String) : Option Nat :=
  ((lineStarts cs).find? fun line => registers name.toList line.2).map (·.1)

/-- Where a block that starts at `start` ends. -/
def blockEnd (cs : List Char) (start : Nat) : Nat :=
  ((boundaries cs).find? fun boundary => start < boundary).getD cs.length

/-- The text between two positions. -/
def slice (cs : List Char) (start stop : Nat) : List Char :=
  (cs.drop start).take (stop - start)

/-- Whether a block ends in `end)`, blanks after it aside. -/
def isTerminated (block : List Char) : Bool :=
  "end)".toList.isSuffixOf (trimEnd block)

/-- A block to cut out: from where to where, and for which module. -/
structure Span where
  start : Nat
  stop : Nat
  module : String
  deriving Repr, DecidableEq

/-! ### Texts -/

/-- Looks for the block of one name. -/
def findSpan (cs : List Char) (state : List Span × StripReport) (name : String) :
    Except StripError (List Span × StripReport) :=
  match blockStart? cs name with
  | none => .ok (state.1, state.2.miss name)
  | some start =>
    let stop := blockEnd cs start
    if isTerminated (slice cs start stop) then
      .ok (state.1 ++ [⟨start, stop, name⟩], state.2.strip name)
    else .error (.unterminatedBlock name)

/-- The text from `cursor` on without the spans, which are in order of their starts. -/
def cutFrom (cs : List Char) (cursor : Nat) : List Span → Except StripError (List Char)
  | [] => .ok (cs.drop cursor)
  | span :: spans =>
    if cursor ≤ span.start then
      (cutFrom cs span.stop spans).map (slice cs cursor span.start ++ ·)
    else .error (.sharedBlock span.module)

/-- Takes names out of a bundle text. -/
def stripText (text : String) (globals : List String) : Except StripError Stripped := do
  let cs := text.toList
  let (spans, report) ← globals.foldlM (findSpan cs) ([], .empty)
  let rest ← cutFrom cs 0 (spans.mergeSort fun a b => a.start ≤ b.start)
  return ⟨String.ofList rest, report⟩

/-- Takes names out of a bundle and renders what is left. -/
def Output.strip (output : Output) (globals : List String) : Except StripError Stripped :=
  match output with
  | .structured d =>
    let (d, report) := d.strip globals
    .ok ⟨d.render, report⟩
  | .text t => stripText t globals

end LuaBundler.Bundle
