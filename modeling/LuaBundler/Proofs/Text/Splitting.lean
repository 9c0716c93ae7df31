import LuaBundler.Text.Split

/-!
# Splitting and joining

`splitOn` and `join` are the library's `List.splitOn` and `List.intercalate` for one separator
(`splitOn_eq`, `join_eq`), so that texts without the separator are pieces of their own, pieces
without it come back from their join, and a separator in a text is where its pieces part.
-/

namespace LuaBundler.Text

/-- Pieces are cut as `List.splitOn` cuts them. -/
theorem splitOn_eq (sep : Char) (cs : List Char) : splitOn sep cs = cs.splitOn sep := by
  induction cs with
  | nil => simp [splitOn]
  | cons c cs ih =>
    rw [List.splitOn_cons_eq_if_modifyHead, ← ih, splitOn]
    obtain ⟨piece, pieces, h⟩ := List.exists_cons_of_ne_nil (splitOn_ne_nil sep cs)
    by_cases hc : c = sep <;> simp [hc, h]

/-- Pieces are joined as `List.intercalate` joins them. -/
theorem join_eq (sep : Char) (ps : List (List Char)) : join sep ps = [sep].intercalate ps := by
  fun_induction join sep ps <;> simp_all

/-- A text without the separator is one piece. -/
theorem splitOn_of_not_mem {sep : Char} {cs : List Char} (h : sep ∉ cs) :
    splitOn sep cs = [cs] := by
  rw [splitOn_eq, List.splitOn_eq_singleton h]

/-- At a separator the pieces part. -/
theorem splitOn_append_cons (sep : Char) (xs ys : List Char) :
    splitOn sep (xs ++ sep :: ys) = splitOn sep xs ++ splitOn sep ys := by
  simp only [splitOn_eq, List.splitOn_append_cons_self]

/-- Pieces without the separator come back from their join. -/
theorem splitOn_join {sep : Char} {ps : List (List Char)} (hne : ps ≠ [])
    (h : ∀ p ∈ ps, sep ∉ p) : splitOn sep (join sep ps) = ps := by
  rw [splitOn_eq, join_eq, List.splitOn_intercalate sep h hne]

/-- What a joined text holds stands in a piece, or is the separator. -/
theorem mem_join {sep c : Char} {ps : List (List Char)} (h : c ∈ join sep ps) :
    c = sep ∨ ∃ p ∈ ps, c ∈ p := by
  fun_induction join sep ps with
  | case1 => simp at h
  | case2 p => exact .inr ⟨p, by simp, h⟩
  | case3 p q ps ih =>
    rcases List.mem_append.1 h with h | h
    · exact .inr ⟨p, by simp, h⟩
    · rcases List.mem_cons.1 h with h | h
      · exact .inl h
      · exact (ih h).imp_right fun ⟨r, hr, hc⟩ ↦ ⟨r, List.mem_cons_of_mem _ hr, hc⟩

theorem mem_join_of_mem {sep c : Char} {ps : List (List Char)} {p : List Char} (hp : p ∈ ps)
    (h : c ∈ p) : c ∈ join sep ps := by
  fun_induction join sep ps with
  | case1 => simp at hp
  | case2 q =>
    obtain rfl := List.mem_singleton.1 hp
    exact h
  | case3 q r ps ih =>
    rcases List.mem_cons.1 hp with rfl | hp
    · exact List.mem_append_left _ h
    · exact List.mem_append_right _ (List.mem_cons_of_mem _ (ih hp))

/-- A text is known from its pieces. -/
theorem splitOn_inj {sep : Char} {cs ds : List Char} :
    splitOn sep cs = splitOn sep ds ↔ cs = ds := by
  refine ⟨fun h ↦ ?_, fun h ↦ h ▸ rfl⟩
  rw [← join_splitOn sep cs, h, join_splitOn]

/-- A character other than the separator stands in a text if it stands in a piece, and only then. -/
theorem mem_iff_exists_mem_splitOn {sep c : Char} (hc : c ≠ sep) (cs : List Char) :
    c ∈ cs ↔ ∃ p ∈ splitOn sep cs, c ∈ p := by
  constructor
  · intro h
    rw [← join_splitOn sep cs] at h
    exact (mem_join h).resolve_left hc
  · rintro ⟨p, hp, h⟩
    rw [← join_splitOn sep cs]
    exact mem_join_of_mem hp h

/-- What comes after the last piece comes after the join. -/
theorem join_concat_append (sep : Char) (ps : List (List Char)) (p cs : List Char) :
    join sep (ps ++ [p ++ cs]) = join sep (ps ++ [p]) ++ cs := by
  induction ps with
  | nil => rfl
  | cons q ps ih =>
    have hcons : ∀ r, join sep (q :: ps ++ [r]) = q ++ sep :: join sep (ps ++ [r]) := by
      intro r
      cases ps <;> rfl
    rw [hcons, hcons, ih]
    simp

/-- More pieces come after a separator. -/
theorem join_append (sep : Char) {ps qs : List (List Char)} (hps : ps ≠ []) (hqs : qs ≠ []) :
    join sep (ps ++ qs) = join sep ps ++ sep :: join sep qs := by
  induction ps with
  | nil => exact absurd rfl hps
  | cons p ps ih =>
    cases ps with
    | nil =>
      obtain ⟨q, qs, rfl⟩ := List.exists_cons_of_ne_nil hqs
      rfl
    | cons r ps =>
      rw [List.cons_append, List.cons_append, join, ← List.cons_append, ih (by simp), join]
      simp

/-- A joined text ends with its last piece. -/
theorem suffix_join_concat (sep : Char) (ps : List (List Char)) (p : List Char) :
    p <:+ join sep (ps ++ [p]) := by
  induction ps with
  | nil => exact List.suffix_rfl
  | cons q ps ih =>
    have hjoin : join sep (q :: ps ++ [p]) = q ++ sep :: join sep (ps ++ [p]) := by
      cases ps <;> rfl
    rw [hjoin]
    exact ih.trans ((List.suffix_cons ..).trans (List.suffix_append ..))

/-- Joining at another character than the one that was split at replaces the one by the other. -/
theorem join_splitOn_map (old new : Char) (cs : List Char) :
    join new (splitOn old cs) = cs.map fun c => if c = old then new else c := by
  induction cs with
  | nil => rfl
  | cons c cs ih =>
    obtain ⟨piece, pieces, h⟩ := List.exists_cons_of_ne_nil (splitOn_ne_nil old cs)
    rw [splitOn, List.map_cons, ← ih, h]
    by_cases hc : c = old
    · simp [hc, join]
    · cases pieces <;> simp [hc, join]

end LuaBundler.Text
