import LuaBundler.Text.Utf8

/-!
# Positions in a source text

A position counts bytes: the offset from the start of the text, and a line and column that both
start at one. Passing a line feed starts a line; every other character moves the column by the
width of its encoding. `offset_pass` and `line_pass` read off what a stretch of text adds.
-/

namespace LuaBundler.Source

open LuaBundler.Text

/-- A place in a source text. -/
structure Position where
  offset : Nat
  line : Nat
  column : Nat
  deriving Repr, DecidableEq

namespace Position

/-- The start of a text. -/
def start : Position := ⟨0, 1, 1⟩

/-- The place after one character. -/
def advance (p : Position) (c : Char) : Position :=
  if c = '\n' then ⟨p.offset + 1, p.line + 1, 1⟩
  else ⟨p.offset + c.utf8Size, p.line, p.column + c.utf8Size⟩

/-- The place after a stretch of text. -/
def pass (p : Position) (cs : List Char) : Position :=
  cs.foldl advance p

@[simp] theorem pass_nil (p : Position) : p.pass [] = p := rfl

@[simp] theorem pass_cons (p : Position) (c : Char) (cs : List Char) :
    p.pass (c :: cs) = (p.advance c).pass cs := rfl

theorem pass_append (p : Position) (cs ds : List Char) :
    p.pass (cs ++ ds) = (p.pass cs).pass ds :=
  List.foldl_append

theorem offset_advance (p : Position) (c : Char) :
    (p.advance c).offset = p.offset + c.utf8Size := by
  unfold advance
  split
  · subst_vars
    rfl
  · rfl

/-- A stretch of text adds its bytes to the offset. -/
theorem offset_pass (p : Position) (cs : List Char) :
    (p.pass cs).offset = p.offset + byteLength cs := by
  induction cs generalizing p with
  | nil => simp [byteLength]
  | cons c cs ih =>
    rw [pass_cons, ih, offset_advance]
    simp [byteLength, Nat.add_assoc]

/-- A stretch of text adds its line feeds to the line. -/
theorem line_pass (p : Position) (cs : List Char) :
    (p.pass cs).line = p.line + cs.count '\n' := by
  induction cs generalizing p with
  | nil => simp
  | cons c cs ih =>
    rw [pass_cons, ih]
    by_cases h : c = '\n'
    · simp only [advance, h, if_true, List.count_cons_self]
      omega
    · simp [advance, h]

end Position

end LuaBundler.Source
