import LuaBundler.Files.Walk
import LuaBundler.Proofs.Text.Splitting

/-!
# The names of a path text

What a walk along a path does depends on two things only: where the path starts (`origin`) and the
names between its slashes (`namesOf`). Steps of `.` matter at the end of a path alone, so most of
what follows is said of the names without them (`bare`).

Both are read off for joined paths, for the path of a place, for the components of a path, and from
those for paths made absolute and paths made relative to another.
-/

namespace LuaBundler.Files

open Text

/-- The names of a path text; empty pieces are none. -/
def namesOf (text : String) : List String :=
  (pieces '/' text).filter (· ≠ "")

/-- Names without those that stay where they are. -/
def bare (xs : List String) : List String :=
  xs.filter (· ≠ ".")

@[simp] theorem bare_nil : bare [] = [] := rfl

@[simp] theorem bare_append (xs ys : List String) : bare (xs ++ ys) = bare xs ++ bare ys := by
  simp [bare]

theorem bare_cons (x : String) (xs : List String) :
    bare (x :: xs) = if x = "." then bare xs else x :: bare xs := by
  by_cases h : x = "." <;> simp [bare, h]

@[simp] theorem bare_dot : bare ["."] = [] := by
  simp [bare]

@[simp] theorem bare_bare (xs : List String) : bare (bare xs) = bare xs := by
  simp [bare]

/-- A slash at the end of a text is the only step that is no name of it. -/
theorem steps_eq (text : String) :
    steps text = namesOf text ++ if text.toList.getLast? = some '/' then ["."] else [] := by
  unfold steps namesOf
  split <;> simp

@[simp] theorem bare_steps (text : String) : bare (steps text) = bare (namesOf text) := by
  rw [steps_eq]
  split <;> simp

/-! ### Texts that are put together -/

@[simp] theorem namesOf_empty : namesOf "" = [] := by
  simp [namesOf, pieces, splitOn]

/-- At a slash the names of a text part. -/
theorem namesOf_append_slash (a b : String) :
    namesOf (a ++ "/" ++ b) = namesOf a ++ namesOf b := by
  have h : (a ++ "/" ++ b).toList = a.toList ++ '/' :: b.toList := by simp
  simp [namesOf, pieces, h, splitOn_append_cons]

theorem namesOf_slash_append (b : String) : namesOf ("/" ++ b) = namesOf b := by
  simpa using namesOf_append_slash "" b

/-- A text that is a single name. -/
theorem namesOf_of_not_mem {text : String} (hne : text ≠ "") (h : '/' ∉ text.toList) :
    namesOf text = [text] := by
  simp [namesOf, pieces, splitOn_of_not_mem h, hne]

/-- No name has a slash. -/
theorem not_mem_of_mem_namesOf {text x : String} (h : x ∈ namesOf text) : '/' ∉ x.toList := by
  simp only [namesOf, pieces, List.mem_filter, List.mem_map] at h
  obtain ⟨⟨piece, hp, rfl⟩, -⟩ := h
  simpa using not_mem_of_mem_splitOn hp

/-- Every text ends in a slash or in no slash, and in the first case is a text before it. -/
theorem eq_append_slash_of_getLast? {text : String} (h : text.toList.getLast? = some '/') :
    ∃ s : String, text = s ++ "/" := by
  obtain ⟨cs, hcs⟩ := List.getLast?_eq_some_iff.1 h
  exact ⟨String.ofList cs, by rw [← String.toList_inj]; simp [hcs]⟩

/-- The text of a joined path, by the three ways in which paths are joined. -/
theorem text_join {p q : Path} (hq : q.isAbsolute = false) :
    (p.text = "" ∧ (p.join q).text = q.text) ∨
    (∃ s, p.text = s ++ "/" ∧ (p.join q).text = s ++ "/" ++ q.text) ∨
    (p.text ≠ "" ∧ (p.join q).text = p.text ++ "/" ++ q.text) := by
  unfold Path.join
  rw [hq]
  simp only [Bool.false_eq_true, if_false]
  cases hl : p.text.toList.getLast? with
  | none =>
    left
    simpa using hl
  | some c =>
    right
    by_cases hc : c = '/'
    · subst hc
      obtain ⟨s, hs⟩ := eq_append_slash_of_getLast? hl
      exact .inl ⟨s, hs, by simp [hs]⟩
    · refine .inr ⟨?_, by simp [hc]⟩
      rintro h
      simp [h] at hl

/-- Relative paths are joined onto a path by putting one text before theirs. -/
theorem exists_text_join (p : Path) :
    ∃ before : String, ∀ q : Path, q.isAbsolute = false → (p.join q).text = before ++ q.text := by
  cases hl : p.text.toList.getLast? with
  | none => exact ⟨"", fun q hq ↦ by simp [Path.join, hq, hl]⟩
  | some c =>
    by_cases hc : c = '/'
    · exact ⟨p.text, fun q hq ↦ by simp [Path.join, hq, hl, hc]⟩
    · exact ⟨p.text ++ "/", fun q hq ↦ by simp [Path.join, hq, hl, hc]⟩

theorem namesOf_join {p q : Path} (hq : q.isAbsolute = false) :
    namesOf (p.join q).text = namesOf p.text ++ namesOf q.text := by
  rcases text_join (p := p) hq with ⟨hp, h⟩ | ⟨s, hp, h⟩ | ⟨-, h⟩
  · simp [hp, h]
  · have hs : namesOf (s ++ "/") = namesOf s := by simpa using namesOf_append_slash s ""
    rw [h, hp, namesOf_append_slash, hs]
  · rw [h, namesOf_append_slash]

/-- A path joined onto one that is not empty starts where that one starts. -/
theorem head?_join {p q : Path} (hp : p.text ≠ "") (hq : q.isAbsolute = false) :
    (p.join q).text.toList.head? = p.text.toList.head? := by
  rcases text_join (p := p) hq with ⟨h, -⟩ | ⟨s, h, hj⟩ | ⟨-, hj⟩
  · exact absurd h hp
  · rw [hj, h]
    cases hs : s.toList <;> simp [hs]
  · rw [hj]
    have hne : p.text.toList ≠ [] := by simpa using hp
    cases hs : p.text.toList with
    | nil => exact absurd hs hne
    | cons c cs => simp [hs]

theorem text_join_ne {p q : Path} (hp : p.text ≠ "") (hq : q.isAbsolute = false) :
    (p.join q).text ≠ "" := by
  intro h
  have hhead := head?_join hp hq
  rw [h] at hhead
  exact hp (String.toList_eq_nil_iff.1 (List.head?_eq_none_iff.1 hhead.symm))

theorem origin_join {p q : Path} {here : Place} (hp : p.text ≠ "") (hq : q.isAbsolute = false) :
    origin here (p.join q).text = origin here p.text := by
  simp [origin, head?_join hp hq]

theorem isAbsolute_join {p q : Path} (hp : p.text ≠ "") (hq : q.isAbsolute = false) :
    (p.join q).isAbsolute = p.isAbsolute := by
  simp [Path.isAbsolute, head?_join hp hq]

theorem origin_of_isAbsolute {p : Path} (h : p.isAbsolute = true) (here : Place) :
    origin here p.text = [] := by
  simp_all [origin, Path.isAbsolute]

theorem origin_of_not_isAbsolute {p : Path} (h : p.isAbsolute = false) (here : Place) :
    origin here p.text = here := by
  simp_all [origin, Path.isAbsolute]

end LuaBundler.Files
