import LuaBundler.Shell.Pattern

/-!
# Fields

The expansion of a word is a list of chunks. Some chunks may be split into fields: those that come
from unquoted expansions at the separators, and those that come from the list of all arguments
between the arguments. `splitFields` does that; what is left is a list of fields, in which each
character is still known to be quoted or not.

Separators that are space count as one, together with one separator that is not; other separators
have a field, maybe an empty one, before each of them. A NUL stands between arguments.
-/

namespace LuaBundler.Shell

/-- Where a chunk may be split. -/
inductive Region where
  | whole
  | separated
  | arguments
  deriving DecidableEq

/-- A part of an expanded word: a quotation mark, or a text. -/
inductive Chunk where
  | mark
  | text (cs : List Char) (isQuoted : Bool) (region : Region)

/-- What stands between arguments. -/
def argumentEnd : Char := '\x00'

/-- A field, as marked characters; a field of a quotation mark alone is empty. -/
structure Field where
  marks : List Mark := []
  hasQuotes : Bool := false

namespace Field

/-- The text of a field. -/
def text (f : Field) : String :=
  String.ofList (f.marks.map (·.1))

end Field

/-- The marked characters of a word that is not split. -/
def chunkMarks (chunks : List Chunk) : List Mark :=
  chunks.flatMap fun c => match c with
    | .mark => []
    | .text cs isQuoted _ => marks isQuoted cs

/-- The text of a word that is not split. -/
def chunkText (chunks : List Chunk) : List Char :=
  chunks.flatMap fun c => match c with
    | .mark => []
    | .text cs _ _ => cs

/-- Whether a word is split nowhere. -/
def isWhole (chunks : List Chunk) : Bool :=
  chunks.all fun c => match c with
    | .mark => true
    | .text _ _ region => region = .whole

/-- Fields that are being made: those that are finished, and the current one with its characters and
those of the rest in reverse. -/
structure Splitting where
  fields : List Field := []
  /-- The marked characters of the current field, the last one first. -/
  current : List Mark := []
  hasQuotes : Bool := false
  /-- Whether separators that are space have just ended a field. -/
  afterSpace : Bool := false
  /-- Whether the last region was a list of arguments. -/
  ofArguments : Bool := false
  /-- How many fields may still be made, if there is a bound; at zero, all goes into the last. -/
  room : Option Nat := none
  /-- How many characters the last field had where its tail began that may be cut off. -/
  cut : Option Nat := none

namespace Splitting

/-- Whether the current field has nothing yet. -/
def isFresh (s : Splitting) : Bool :=
  s.current.isEmpty && !s.hasQuotes

/-- Ends the current field. -/
def endField (s : Splitting) : Splitting :=
  { s with
    fields := ⟨s.current.reverse, s.hasQuotes⟩ :: s.fields
    current := []
    hasQuotes := false }

/-- Adds a character to the current field. -/
def add (s : Splitting) (m : Mark) : Splitting :=
  { s with current := m :: s.current }

/-- A character where no more fields are made. -/
def addLast (s : Splitting) (m : Mark) (isSeparator isSpace : Bool) : Splitting :=
  let size := s.current.length
  let s := s.add m
  if isSpace then { s with cut := some (s.cut.getD size) }
  else
    let s := if isSeparator && s.afterSpace then s else { s with cut := none }
    { s with afterSpace := false }

/-- A character of a region that may be split. -/
def addSplit (separators : List Char) (afterArguments ofArguments : Bool) (s : Splitting)
    (m : Mark) : Splitting :=
  let c := m.1
  let isSeparator := c = argumentEnd || (!ofArguments && separators.contains c)
  let isSpace := isSeparator && (c = argumentEnd || c = ' ' || c = '\t' || c = '\n')
  if s.room = some 0 then s.addLast m isSeparator isSpace
  else if s.afterSpace && isSpace then s
  else if s.afterSpace && isSeparator then { s with afterSpace := false }
  else if isSeparator then
    let s := { s with afterSpace := !(afterArguments || ofArguments) && isSpace }
    if s.isFresh && s.afterSpace then { s with afterSpace := false }
    else match s.room with
      | some 1 => { s.add m with room := some 0, cut := some s.current.length }
      | some (n + 2) => { s.endField with room := some (n + 1) }
      | _ => s.endField
  else { s.add m with afterSpace := false }

/-- A chunk. -/
def addChunk (separators : List Char) (s : Splitting) : Chunk → Splitting
  | .mark => { s with hasQuotes := true }
  | .text cs isQuoted region =>
    match region with
    | .whole => { s with current := (marks isQuoted cs).reverse ++ s.current }
    | region =>
      let ofArguments := region = .arguments
      let start := { s with afterSpace := false, ofArguments }
      cs.foldl (fun t c => addSplit separators s.ofArguments ofArguments t (c, isQuoted)) start

/-- The fields at the end. -/
def finish (s : Splitting) : List Field :=
  let s := match s.cut with
    | some size => { s with current := s.current.drop (s.current.length - size) }
    | none => s
  let s := if s.ofArguments || !s.isFresh then s.endField else s
  s.fields.reverse

end Splitting

/-- The fields of a word, of which there may be a greatest number. -/
def splitFields (separators : List Char) (room : Option Nat) (chunks : List Chunk) : List Field :=
  (chunks.foldl (Splitting.addChunk separators) { room }).finish

end LuaBundler.Shell
