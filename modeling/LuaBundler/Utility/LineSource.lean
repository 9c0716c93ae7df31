import LuaBundler.Utility.Basic

/-!
# Lines of files

A source of lines reads what a number stands for piece by piece, so that whoever takes its lines may
stop before the end, or before there is one.
-/

namespace LuaBundler.Utility

open LuaBundler.Files LuaBundler.System

/-- A line without its end, and whether it had one. -/
structure Line where
  text : String
  hasEnd : Bool

/-- A source of lines: what it reads from, how its lines end, the lines that have been read, and the
start of the next one. -/
structure LineSource where
  number : Nat
  ending : Char := '\n'
  ready : List String := []
  started : String := ""
  isAtEnd : Bool := false

namespace LineSource

/-- A source with one more piece of text. -/
def feed (s : LineSource) (text : String) : LineSource :=
  let (lines, last) := text.foldl (fun (lines, last) c =>
    if c = s.ending then (last :: lines, "") else (lines, last.push c))
    (([] : List String), s.started)
  { s with ready := s.ready ++ lines.reverse, started := last }

/-- The next line, if there is one. -/
def nextWithin : Nat → LineSource → Action (Except FileError (Option Line × LineSource))
  | 0, s => return .ok (none, s)
  | steps + 1, s => do
    match s.ready with
    | text :: ready => return .ok (some ⟨text, true⟩, { s with ready })
    | [] =>
      if s.isAtEnd then
        if s.started = "" then return .ok (none, s)
        else return .ok (some ⟨s.started, false⟩, { s with started := "" })
      else match ← readPiece s.number with
        | .error e => return .error e
        | .ok bytes =>
          if bytes.size = 0 then nextWithin steps { s with isAtEnd := true }
          else nextWithin steps (s.feed (octetsOfArray bytes))

/-- The next line, if there is one. -/
def next (s : LineSource) : Action (Except FileError (Option Line × LineSource)) :=
  nextWithin maxSteps s

end LineSource

/-! ### Gathered output -/

/-- Output that is written in larger pieces. -/
structure Gathered where
  text : String := ""
  /-- Why something could not be written. -/
  failure? : Option FileError := none

namespace Gathered

/-- How much output is gathered before it is written. -/
def limit : Nat := 4096

/-- Writes what was gathered. -/
def flush (g : Gathered) : Action Gathered := do
  if g.text = "" || g.failure?.isSome then return { g with text := "" }
  else return { text := "", failure? := ← write 1 g.text }

/-- Adds a text. -/
def put (g : Gathered) (text : String) : Action Gathered :=
  let g := { g with text := g.text ++ text }
  if limit ≤ g.text.utf8ByteSize then g.flush else pure g

/-- Writes the rest; ends with a status, or another one if something could not be written. -/
def finish (g : Gathered) (c : Call) (status failed : Nat) : Action Nat := do
  let g ← g.flush
  match g.failure? with
  | none => return status
  | some e => c.fail failed ("write error: " ++ e.reason)

end Gathered

end LuaBundler.Utility
