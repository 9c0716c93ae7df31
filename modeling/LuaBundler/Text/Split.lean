/-!
# Splitting at a separator

`splitOn sep` cuts a text at every occurrence of one character; `join sep` puts the pieces back.
The pieces are never an empty list, and joining them gives the text (`join_splitOn`).
-/

namespace LuaBundler.Text

/-- The pieces of a text between the occurrences of `sep`; always at least one. -/
def splitOn (sep : Char) : List Char → List (List Char)
  | [] => [[]]
  | c :: cs =>
    if c = sep then [] :: splitOn sep cs
    else match splitOn sep cs with
      | [] => [[c]]
      | piece :: pieces => (c :: piece) :: pieces

/-- The pieces with `sep` between each two of them. -/
def join (sep : Char) : List (List Char) → List Char
  | [] => []
  | [piece] => piece
  | piece :: next :: pieces => piece ++ sep :: join sep (next :: pieces)

/-- The pieces of a string between the occurrences of `sep`. -/
def pieces (sep : Char) (s : String) : List String :=
  (splitOn sep s.toList).map String.ofList

theorem splitOn_ne_nil (sep : Char) (cs : List Char) : splitOn sep cs ≠ [] := by
  cases cs with
  | nil => simp [splitOn]
  | cons c cs =>
    simp only [splitOn]
    split
    · simp
    · split <;> simp

/-- Joining the pieces of a text gives the text. -/
theorem join_splitOn (sep : Char) (cs : List Char) : join sep (splitOn sep cs) = cs := by
  induction cs with
  | nil => rfl
  | cons c cs ih =>
    simp only [splitOn]
    obtain ⟨piece, pieces, h⟩ := List.exists_cons_of_ne_nil (splitOn_ne_nil sep cs)
    rw [h] at ih ⊢
    by_cases hc : c = sep
    · simp [hc, join, ih]
    · cases pieces <;> simp_all [join]

/-- No piece holds the separator. -/
theorem not_mem_of_mem_splitOn {sep : Char} {cs piece : List Char}
    (h : piece ∈ splitOn sep cs) : sep ∉ piece := by
  induction cs generalizing piece with
  | nil => simp_all [splitOn]
  | cons c cs ih =>
    simp only [splitOn] at h
    split at h
    · rcases List.mem_cons.1 h with rfl | h
      · simp
      · exact ih h
    · rename_i hc
      split at h
      · rename_i heq
        exact absurd heq (splitOn_ne_nil sep cs)
      · rename_i first others heq
        rw [heq] at ih
        rcases List.mem_cons.1 h with rfl | h
        · simp [ih (List.mem_cons_self ..), Ne.symm hc]
        · exact ih (List.mem_cons_of_mem _ h)

end LuaBundler.Text
