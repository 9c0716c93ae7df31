import LuaBundler.Source.Segment
import LuaBundler.Text.Blank
import Mathlib.Data.List.Basic

/-!
# What masking keeps

Masking a text blanks its comments byte by byte. So a place in the masked text has the offset, the
line and the column that it has in the text (`Position.pass_flatMap_masked`), and of what stands
right before a place only the end of a comment is hidden, where the mask has a blank
(`getLast?_masked`).

The byte ranges of string literals are those of the segments they come from, so a place where code
starts is in none of them (`not_covered_literalRanges`).
-/

namespace LuaBundler.Source

open Text

/-! ### One segment after the other -/

@[simp] theorem segments_nil : segments [] = [] := by
  rw [segments]
  rfl

theorem segments_of_next? {cs rest : List Char} {s : Segment}
    (h : Segment.next? cs = some (s, rest)) : segments cs = s :: segments rest := by
  rw [segments]
  split
  · simp_all
  · rename_i heq
    obtain ⟨rfl, rfl⟩ := Prod.mk.inj (Option.some.inj (h.symm.trans heq))
    rfl

@[simp] theorem masked_nil : masked [] = [] := by
  rw [masked, segments_nil, List.flatMap_nil]

theorem masked_of_next? {cs rest : List Char} {s : Segment}
    (h : Segment.next? cs = some (s, rest)) : masked cs = s.masked ++ masked rest := by
  rw [masked, segments_of_next? h, List.flatMap_cons, masked]

/-! ### Lengths -/

theorem length_flatMap_blanked_le (cs : List Char) :
    (cs.flatMap blanked).length ≤ 4 * cs.length := by
  induction cs with
  | nil => exact Nat.le_refl 0
  | cons c cs ih =>
    have hc : (blanked c).length ≤ 4 := by
      unfold blanked
      split
      · simp
      · rw [List.length_replicate]
        exact c.utf8Size_le_four
    rw [List.flatMap_cons, List.length_append, List.length_cons]
    omega

/-- Masked text has at most as many characters as the bytes that a text of its length can have. -/
theorem length_masked_le (cs : List Char) : (masked cs).length ≤ 4 * cs.length := by
  have key : ∀ ss : List Segment,
      (ss.flatMap Segment.masked).length ≤ 4 * (ss.flatMap Segment.text).length := by
    intro ss
    induction ss with
    | nil => exact Nat.le_refl 0
    | cons s ss ih =>
      have hs : s.masked.length ≤ 4 * s.text.length := by
        cases s with
        | comment text => exact length_flatMap_blanked_le text
        | code c => simp [Segment.masked, Segment.text]
        | literal text => exact Nat.le_mul_of_pos_left _ (by decide)
      rw [List.flatMap_cons, List.flatMap_cons, List.length_append, List.length_append]
      omega
  simpa only [masked, flatMap_text_segments] using key (segments cs)

/-! ### Positions -/

namespace Position

theorem pass_replicate_blank (p : Position) (n : Nat) :
    p.pass (List.replicate n ' ') = ⟨p.offset + n, p.line, p.column + n⟩ := by
  induction n generalizing p with
  | zero => rfl
  | succ n ih =>
    have hblank : p.advance ' ' = ⟨p.offset + 1, p.line, p.column + 1⟩ := rfl
    rw [List.replicate_succ, pass_cons, ih, hblank]
    simp only [mk.injEq, true_and]
    omega

/-- A blanked character is as wide as the character. -/
theorem pass_blanked (p : Position) (c : Char) : p.pass (blanked c) = p.advance c := by
  unfold blanked advance
  split
  · subst_vars
    rfl
  · rw [pass_replicate_blank]

theorem pass_flatMap_blanked (p : Position) (cs : List Char) :
    p.pass (cs.flatMap blanked) = p.pass cs := by
  induction cs generalizing p with
  | nil => rfl
  | cons c cs ih => rw [List.flatMap_cons, pass_append, pass_blanked, ih, pass_cons]

/-- A masked segment is as wide as the segment. -/
theorem pass_masked (p : Position) (s : Segment) : p.pass s.masked = p.pass s.text := by
  cases s with
  | comment text => exact pass_flatMap_blanked p text
  | code c => rfl
  | literal text => rfl

/-- **Masking keeps every position.** -/
theorem pass_flatMap_masked (p : Position) (ss : List Segment) :
    p.pass (ss.flatMap Segment.masked) = p.pass (ss.flatMap Segment.text) := by
  induction ss generalizing p with
  | nil => rfl
  | cons s ss ih =>
    rw [List.flatMap_cons, List.flatMap_cons, pass_append, pass_append, pass_masked, ih]

/-- Texts that a position passes alike have as many bytes. -/
theorem byteLength_eq {cs ds : List Char} (h : start.pass cs = start.pass ds) :
    byteLength cs = byteLength ds := by
  simpa only [offset_pass, Nat.add_left_cancel_iff] using congrArg offset h

/-- A stretch of text ends on a later line, or further right on the line it starts on. -/
theorem lt_pass (p : Position) {cs : List Char} (h : cs ≠ []) :
    p.line < (p.pass cs).line ∨
      ((p.pass cs).line = p.line ∧ p.column < (p.pass cs).column) := by
  induction cs generalizing p with
  | nil => exact absurd rfl h
  | cons c cs ih =>
    rw [pass_cons]
    have hstep : p.line < (p.advance c).line ∨
        ((p.advance c).line = p.line ∧ p.column < (p.advance c).column) := by
      unfold advance
      split
      · exact .inl (Nat.lt_succ_self _)
      · exact .inr ⟨rfl, Nat.lt_add_of_pos_right c.utf8Size_pos⟩
    by_cases hcs : cs = []
    · subst hcs
      exact hstep
    · rcases ih (p.advance c) hcs with hlater | ⟨hline, hright⟩ <;> omega

end Position

theorem byteLength_flatMap_blanked (text : List Char) :
    byteLength (text.flatMap blanked) = byteLength text :=
  Position.byteLength_eq (Position.pass_flatMap_blanked ..)

theorem byteLength_masked (s : Segment) : byteLength s.masked = byteLength s.text :=
  Position.byteLength_eq (Position.pass_masked ..)

theorem byteLength_flatMap_masked (ss : List Segment) :
    byteLength (ss.flatMap Segment.masked) = byteLength (ss.flatMap Segment.text) :=
  Position.byteLength_eq (Position.pass_flatMap_masked ..)

/-- A text that is not empty has bytes. -/
theorem byteLength_pos {cs : List Char} (h : cs ≠ []) : 0 < byteLength cs := by
  obtain ⟨c, cs, rfl⟩ := List.exists_cons_of_ne_nil h
  exact Nat.lt_of_lt_of_le c.utf8Size_pos (Nat.le_add_right ..)

/-! ### Ranges of literals -/

theorem literalRanges_append (offset : Nat) (ss rest : List Segment) :
    literalRanges offset (ss ++ rest) = literalRanges offset ss ++
      literalRanges (offset + byteLength (ss.flatMap Segment.text)) rest := by
  induction ss generalizing offset with
  | nil => rfl
  | cons s ss ih =>
    rw [List.cons_append, List.flatMap_cons, byteLength_append, ← Nat.add_assoc]
    cases s <;> simp [literalRanges, ih]

/-- The ranges of segments lie within their text. -/
theorem bounds_of_mem_literalRanges {offset : Nat} {ss : List Segment} {r : Nat × Nat}
    (h : r ∈ literalRanges offset ss) :
    offset ≤ r.1 ∧ r.2 ≤ offset + byteLength (ss.flatMap Segment.text) := by
  induction ss generalizing offset with
  | nil => simp [literalRanges] at h
  | cons s ss ih =>
    rw [List.flatMap_cons, byteLength_append]
    have hrest : r ∈ literalRanges (offset + byteLength s.text) ss → offset ≤ r.1 ∧
        r.2 ≤ offset + (byteLength s.text + byteLength (ss.flatMap Segment.text)) := by
      intro hr
      have := ih hr
      omega
    cases s with
    | code c => exact hrest h
    | comment text => exact hrest h
    | literal text =>
      rcases List.mem_cons.1 h with rfl | h
      · simp only [Segment.text]
        omega
      · exact hrest h

/-- **A place where code starts lies in no literal.** -/
theorem not_covered_literalRanges (before rest : List Segment) (c : Char) :
    covered (literalRanges 0 (before ++ .code c :: rest))
      (byteLength (before.flatMap Segment.text)) = false := by
  rw [covered, List.any_eq_false]
  intro r hr
  simp only [Bool.and_eq_true, decide_eq_true_eq, not_and, Nat.not_lt]
  intro hle
  rw [literalRanges_append, List.mem_append, Nat.zero_add] at hr
  rcases hr with hr | hr
  · have := (bounds_of_mem_literalRanges hr).2
    omega
  · -- the ranges after the place start behind its first character
    have hstart := (bounds_of_mem_literalRanges (show r ∈ literalRanges _ rest from hr)).1
    have hwide : 0 < byteLength (Segment.code c).text := byteLength_pos (by simp [Segment.text])
    omega

/-! ### What stands right before a place -/

/-- The segments of what is left of a text are the segments left. -/
theorem segments_of_append {cs : List Char} {ss rest : List Segment}
    (h : segments cs = ss ++ rest) : ∃ tail, segments tail = rest := by
  induction ss generalizing cs with
  | nil => exact ⟨cs, h⟩
  | cons s ss ih =>
    rw [segments] at h
    split at h
    · simp at h
    · exact ih (List.cons.inj h).2

/-- A text whose segments start with code starts with that character. -/
theorem eq_cons_of_segments {cs : List Char} {c : Char} {rest : List Segment}
    (h : segments cs = .code c :: rest) : ∃ tail, cs = c :: tail := by
  have hall := flatMap_text_segments cs
  rw [h] at hall
  exact ⟨_, hall.symm⟩

/-- A short literal that ends within a line ends in its quote. -/
theorem getLast?_splitQuoted {quote c : Char} {cs rest : List Char}
    (h : (splitQuoted quote cs).2 = c :: rest) (hc : c ≠ '\n') :
    (splitQuoted quote cs).1.getLast? = some quote := by
  fun_induction splitQuoted quote cs with
  | case1 => simp at h
  | case2 d cs ih => rw [List.getLast?_cons, List.getLast?_cons, ih h]; rfl
  | case3 cs => exact absurd (List.cons.inj h).1.symm hc
  | case4 => rfl
  | case5 d cs _ _ _ ih => rw [List.getLast?_cons, ih h]; rfl

/-- A text that is cut after a delimiter ends in the delimiter, if anything is left. -/
theorem suffix_splitThrough {close cs rest : List Char} {c : Char}
    (h : (splitThrough close cs).2 = c :: rest) : close <:+ (splitThrough close cs).1 := by
  induction cs with
  | nil => simp [splitThrough] at h
  | cons d cs ih =>
    rw [splitThrough] at h ⊢
    split
    · rename_i hclose
      exact ⟨[], List.prefix_iff_eq_take.1 (List.isPrefixOf_iff_prefix.1 hclose)⟩
    · rename_i hclose
      rw [if_neg hclose] at h
      exact (ih h).trans (List.suffix_cons ..)

theorem getLast?_splitBracket {level : Nat} {cs rest : List Char} {c : Char}
    (h : (splitBracket level cs).2 = c :: rest) : (splitBracket level cs).1.getLast? = some ']' := by
  obtain ⟨front, hfront⟩ := suffix_splitThrough (show (splitThrough _ _).2 = c :: rest from h)
  have hall : (splitBracket level cs).1 =
      cs.take (level + 2) ++ front ++ ']' :: List.replicate level '=' ++ [']'] := by
    rw [splitBracket, ← hfront]
    simp [closeBracket]
  rw [hall, List.getLast?_concat]

/-- **A literal that ends within a line ends in a quote or a bracket.** -/
theorem Segment.getLast?_literal {cs rest text : List Char} {c : Char}
    (h : next? cs = some (.literal text, c :: rest)) (hc : c ≠ '\n') :
    ∃ d ∈ ['"', '\'', ']'], text.getLast? = some d := by
  generalize htail : c :: rest = tail at h
  cases next?_eq_some_iff.1 h with
  | @quoted quote cs hquote =>
    refine ⟨quote, by rcases hquote with rfl | rfl <;> simp, ?_⟩
    rw [List.getLast?_cons, getLast?_splitQuoted htail.symm hc]
    rfl
  | bracket => exact ⟨']', by simp, getLast?_splitBracket htail.symm⟩

/-- **A comment that ends within a line ends in a bracket.** -/
theorem Segment.getLast?_comment {cs rest text : List Char} {c : Char}
    (h : next? cs = some (.comment text, c :: rest)) (hc : c ≠ '\n') : text.getLast? = some ']' := by
  generalize htail : c :: rest = tail at h
  cases next?_eq_some_iff.1 h with
  | longComment =>
    rw [List.getLast?_cons, List.getLast?_cons, getLast?_splitBracket htail.symm]
    rfl
  | @lineComment cs =>
    -- a comment on a line ends before a line feed
    have hline := List.head?_dropWhile_not (· ≠ '\n') cs
    simp only [← htail, List.head?_cons, decide_eq_false_iff_not] at hline
    exact absurd hc hline

/-- A comment that is blanked ends in a blank. -/
theorem getLast?_flatMap_blanked {text : List Char} (h : text ≠ []) :
    ∃ d ∈ [' ', '\n'], (text.flatMap blanked).getLast? = some d := by
  obtain ⟨init, c, rfl⟩ := (List.eq_nil_or_concat text).resolve_left h
  rw [List.concat_eq_append, List.flatMap_append, List.flatMap_singleton]
  by_cases hc : c = '\n'
  · exact ⟨'\n', by simp, by simp [blanked, hc]⟩
  · refine ⟨' ', by simp, ?_⟩
    obtain ⟨n, hn⟩ := Nat.exists_eq_succ_of_ne_zero (Nat.ne_of_gt c.utf8Size_pos)
    rw [blanked, if_neg hc, hn, List.replicate_succ', ← List.append_assoc, List.getLast?_concat]

/-- The character of code right before a place, if one stands there. -/
def lastCode? (before : List Segment) : Option Char :=
  match before.getLast? with
  | some (.code c) => some c
  | _ => none

@[simp] theorem lastCode?_concat_code (before : List Segment) (c : Char) :
    lastCode? (before ++ [.code c]) = some c := by
  simp [lastCode?]

@[simp] theorem lastCode?_concat_comment (before : List Segment) (text : List Char) :
    lastCode? (before ++ [.comment text]) = none := by
  simp [lastCode?]

@[simp] theorem lastCode?_concat_literal (before : List Segment) (text : List Char) :
    lastCode? (before ++ [.literal text]) = none := by
  simp [lastCode?]

/-- A segment with code behind it is read off the text with that code left. -/
theorem exists_next?_of_concat {cs : List Char} {init rest : List Segment} {s : Segment} {c : Char}
    (h : segments cs = init ++ [s] ++ .code c :: rest) :
    ∃ tail rest', Segment.next? tail = some (s, c :: rest') := by
  rw [List.append_assoc, List.singleton_append] at h
  obtain ⟨tail, htail⟩ := segments_of_append h
  rw [segments] at htail
  split at htail
  · simp at htail
  · rename_i s rest' hnext
    obtain ⟨rfl, hrest⟩ := List.cons.inj htail
    obtain ⟨rest', rfl⟩ := eq_cons_of_segments hrest
    exact ⟨tail, rest', hnext⟩

/-- **What masked text has right before code** is the character of code that stands there, or else
nothing, a blank, or the end of a literal. -/
theorem getLast?_masked {cs : List Char} {before rest : List Segment} {c : Char}
    (h : segments cs = before ++ .code c :: rest) (hc : c ≠ '\n') :
    (before.flatMap Segment.masked).getLast? = lastCode? before ∨
      (lastCode? before = none ∧ ∃ d ∈ [' ', '\n', '"', '\'', ']'],
        (before.flatMap Segment.masked).getLast? = some d) := by
  rcases before.eq_nil_or_concat with rfl | ⟨init, s, rfl⟩
  · exact .inl rfl
  rw [List.concat_eq_append] at h ⊢
  obtain ⟨tail, rest', hnext⟩ := exists_next?_of_concat h
  rw [List.flatMap_append, List.flatMap_singleton, List.getLast?_append]
  cases s with
  | code d => exact .inl (by simp [Segment.masked, Segment.text])
  | literal text =>
    obtain ⟨d, hd, htext⟩ := Segment.getLast?_literal hnext hc
    exact .inr ⟨lastCode?_concat_literal .., d, by simp at hd ⊢; tauto,
      by simp [Segment.masked, Segment.text, htext]⟩
  | comment text =>
    obtain ⟨d, hd, htext⟩ := getLast?_flatMap_blanked (Segment.text_ne_nil hnext)
    refine .inr ⟨lastCode?_concat_comment .., d, by simp at hd ⊢; tauto, ?_⟩
    rw [Segment.text] at htext
    rw [Segment.masked, htext, Option.some_or]

/-- **What a text has right before code** is what masked text has there, or the bracket that ends a
comment. -/
theorem getLast?_text {cs : List Char} {before rest : List Segment} {c : Char}
    (h : segments cs = before ++ .code c :: rest) (hc : c ≠ '\n') :
    (before.flatMap Segment.text).getLast? = (before.flatMap Segment.masked).getLast? ∨
      (before.flatMap Segment.text).getLast? = some ']' := by
  rcases before.eq_nil_or_concat with rfl | ⟨init, s, rfl⟩
  · exact .inl rfl
  rw [List.concat_eq_append] at h ⊢
  obtain ⟨tail, rest', hnext⟩ := exists_next?_of_concat h
  rw [List.flatMap_append, List.flatMap_append, List.flatMap_singleton, List.flatMap_singleton,
    List.getLast?_append, List.getLast?_append]
  cases s with
  | code d => exact .inl (by simp [Segment.masked, Segment.text])
  | literal text =>
    obtain ⟨d, -, htext⟩ := Segment.getLast?_literal hnext hc
    exact .inl (by simp [Segment.masked, Segment.text, htext])
  | comment text => exact .inr (by simp [Segment.text, Segment.getLast?_comment hnext hc])

end LuaBundler.Source
