import LuaBundler.Source.Position

/-!
# Segments of Lua text

Lua text is cut into comments, string literals and single characters of code. A comment is `--`
with either a long bracket or the rest of the line; a string literal is a short one between quotes,
which also ends before a line feed that no backslash precedes, or a long bracket. What is left open
runs to the end of the text.

Which of them a text starts with is said once, case by case (`Segment.IsFirst`). `segments` cuts a
whole text and loses nothing (`flatMap_text_segments`). `masked` is the text with
every byte of a comment, line feeds apart, made a space, so offsets and lines stay what they were.
-/

namespace LuaBundler.Source

open LuaBundler.Text

/-- A comment, a string literal or a character of code. -/
inductive Segment where
  | code (c : Char)
  | comment (text : List Char)
  | literal (text : List Char)
  deriving Repr, DecidableEq

/-! ### Delimiters -/

/-- The text through the first occurrence of `close`, and what follows; all of it if there is
none. -/
def splitThrough (close : List Char) : List Char → List Char × List Char
  | [] => ([], [])
  | c :: cs =>
    if close.isPrefixOf (c :: cs) then ((c :: cs).take close.length, (c :: cs).drop close.length)
    else ((c :: (splitThrough close cs).1), (splitThrough close cs).2)

/-- The level of the long bracket that opens here: the number of equals signs between its two
square brackets. -/
def bracketLevel? : List Char → Option Nat
  | '[' :: cs =>
    match cs.dropWhile (· = '=') with
    | '[' :: _ => some (cs.takeWhile (· = '=')).length
    | _ => none
  | _ => none

/-- The closing long bracket of a level. -/
def closeBracket (level : Nat) : List Char :=
  ']' :: List.replicate level '=' ++ [']']

/-- A long bracket of the given level that opens here, and what follows. -/
def splitBracket (level : Nat) (cs : List Char) : List Char × List Char :=
  let body := splitThrough (closeBracket level) (cs.drop (level + 2))
  (cs.take (level + 2) ++ body.1, body.2)

/-- The rest of a short literal whose opening quote has been read, and what follows. -/
def splitQuoted (quote : Char) : List Char → List Char × List Char
  | [] => ([], [])
  | '\\' :: c :: cs => ('\\' :: c :: (splitQuoted quote cs).1, (splitQuoted quote cs).2)
  | c :: cs =>
    if c = '\n' then ([], c :: cs)
    else if c = quote then ([c], cs)
    else (c :: (splitQuoted quote cs).1, (splitQuoted quote cs).2)

namespace Segment

/-- The text of a segment. -/
def text : Segment → List Char
  | code c => [c]
  | comment text => text
  | literal text => text

/-- The first segment of a text, and what follows. -/
def next? : List Char → Option (Segment × List Char)
  | [] => none
  | '-' :: '-' :: cs =>
    match bracketLevel? cs with
    | some level =>
      some (.comment ('-' :: '-' :: (splitBracket level cs).1), (splitBracket level cs).2)
    | none => some (.comment ('-' :: '-' :: cs.takeWhile (· ≠ '\n')), cs.dropWhile (· ≠ '\n'))
  | c :: cs =>
    if c = '"' ∨ c = '\'' then some (.literal (c :: (splitQuoted c cs).1), (splitQuoted c cs).2)
    else match bracketLevel? (c :: cs) with
      | some level =>
        some (.literal (splitBracket level (c :: cs)).1, (splitBracket level (c :: cs)).2)
      | none => some (.code c, cs)

/-! ### How a segment starts -/

/-- A text starts with a segment, and the rest of it follows. -/
inductive IsFirst : List Char → Segment → List Char → Prop
  | longComment {cs : List Char} {level : Nat} (h : bracketLevel? cs = some level) :
    IsFirst ('-' :: '-' :: cs) (.comment ('-' :: '-' :: (splitBracket level cs).1))
      (splitBracket level cs).2
  | lineComment {cs : List Char} (h : bracketLevel? cs = none) :
    IsFirst ('-' :: '-' :: cs) (.comment ('-' :: '-' :: cs.takeWhile (· ≠ '\n')))
      (cs.dropWhile (· ≠ '\n'))
  | quoted {quote : Char} {cs : List Char} (hquote : quote = '"' ∨ quote = '\'') :
    IsFirst (quote :: cs) (.literal (quote :: (splitQuoted quote cs).1)) (splitQuoted quote cs).2
  | bracket {cs : List Char} {level : Nat} (h : bracketLevel? cs = some level) :
    IsFirst cs (.literal (splitBracket level cs).1) (splitBracket level cs).2
  | code {c : Char} {cs : List Char} (hdashes : ¬ (c = '-' ∧ cs.head? = some '-'))
    (hquote : ¬ (c = '"' ∨ c = '\'')) (h : bracketLevel? (c :: cs) = none) :
    IsFirst (c :: cs) (.code c) cs

/-- A long bracket opens with a square one. -/
theorem head?_of_bracketLevel? {cs : List Char} {level : Nat} (h : bracketLevel? cs = some level) :
    ∃ tail, cs = '[' :: tail := by
  unfold bracketLevel? at h
  split at h
  · exact ⟨_, rfl⟩
  · simp at h

theorem next?_eq_some_iff {cs rest : List Char} {s : Segment} :
    next? cs = some (s, rest) ↔ IsFirst cs s rest := by
  constructor
  · intro h
    unfold next? at h
    split at h
    · simp at h
    · split at h <;> obtain ⟨rfl, rfl⟩ := Prod.mk.inj (Option.some.inj h)
      · exact .longComment ‹_›
      · exact .lineComment ‹_›
    · rename_i c cs hdashes
      split at h
      · obtain ⟨rfl, rfl⟩ := Prod.mk.inj (Option.some.inj h)
        exact .quoted ‹_›
      · split at h <;> obtain ⟨rfl, rfl⟩ := Prod.mk.inj (Option.some.inj h)
        · exact .bracket ‹_›
        · refine .code ?_ ‹_› ‹_›
          rintro ⟨hdash, hhead⟩
          obtain ⟨tail, rfl⟩ := List.head?_eq_some_iff.1 hhead
          exact hdashes tail hdash rfl
  · intro h
    cases h with
    | longComment h => simp only [next?, h]
    | lineComment h => simp only [next?, h]
    | quoted hquote => rcases hquote with rfl | rfl <;> rfl
    | bracket h =>
      obtain ⟨tail, rfl⟩ := head?_of_bracketLevel? h
      rw [next?, if_neg (by decide), h]
      simp
    | code hdashes hquote h =>
      rw [next?, if_neg hquote, h]
      rintro tail rfl rfl
      exact hdashes ⟨rfl, rfl⟩

/-! ### Nothing is lost -/

theorem append_splitThrough (close cs : List Char) :
    (splitThrough close cs).1 ++ (splitThrough close cs).2 = cs := by
  induction cs with
  | nil => rfl
  | cons c cs ih =>
    unfold splitThrough
    split
    · exact List.take_append_drop ..
    · simp [ih]

theorem append_splitBracket (level : Nat) (cs : List Char) :
    (splitBracket level cs).1 ++ (splitBracket level cs).2 = cs := by
  simp [splitBracket, append_splitThrough]

theorem append_splitQuoted (quote : Char) (cs : List Char) :
    (splitQuoted quote cs).1 ++ (splitQuoted quote cs).2 = cs := by
  fun_induction splitQuoted quote cs <;> simp_all

/-- The first segment and what follows it make up the text. -/
theorem append_next? {cs rest : List Char} {s : Segment} (h : next? cs = some (s, rest)) :
    s.text ++ rest = cs := by
  cases next?_eq_some_iff.1 h with
  | longComment => simp [text, append_splitBracket]
  | lineComment => simp [text, List.takeWhile_append_dropWhile]
  | quoted => simp [text, append_splitQuoted]
  | bracket => simp [text, append_splitBracket]
  | code => simp [text]

theorem splitBracket_ne_nil {level : Nat} {cs : List Char} (h : bracketLevel? cs = some level) :
    (splitBracket level cs).1 ≠ [] := by
  cases cs with
  | nil => simp [bracketLevel?] at h
  | cons c cs => simp [splitBracket]

/-- No segment is empty. -/
theorem text_ne_nil {cs rest : List Char} {s : Segment} (h : next? cs = some (s, rest)) :
    s.text ≠ [] := by
  cases next?_eq_some_iff.1 h with
  | bracket hlevel => exact splitBracket_ne_nil hlevel
  | _ => simp [text]

theorem length_next? {cs rest : List Char} {s : Segment} (h : next? cs = some (s, rest)) :
    rest.length < cs.length := by
  have happ := congrArg List.length (append_next? h)
  have hpos := List.length_pos_iff.2 (text_ne_nil h)
  simp only [List.length_append] at happ
  omega

end Segment

/-- The segments of a text. -/
def segments (cs : List Char) : List Segment :=
  match h : Segment.next? cs with
  | none => []
  | some (s, rest) =>
    have : rest.length < cs.length := Segment.length_next? h
    s :: segments rest
termination_by cs.length

theorem Segment.next?_eq_none_iff {cs : List Char} : Segment.next? cs = none ↔ cs = [] := by
  constructor
  · intro h
    unfold Segment.next? at h
    split at h
    · rfl
    · split at h <;> simp at h
    · split at h
      · simp at h
      · split at h <;> simp at h
  · rintro rfl
    rfl

/-- **The segments of a text make it up.** -/
theorem flatMap_text_segments (cs : List Char) : (segments cs).flatMap Segment.text = cs := by
  fun_induction segments cs with
  | case1 cs h => simp [Segment.next?_eq_none_iff.1 h]
  | case2 cs s rest h _ ih => simp [ih, Segment.append_next? h]

/-! ### Masking -/

/-- A character of a comment made blank, byte by byte; line feeds stay. -/
def blanked (c : Char) : List Char :=
  if c = '\n' then [c] else List.replicate c.utf8Size ' '

/-- A segment with comments blanked. -/
def Segment.masked : Segment → List Char
  | .comment text => text.flatMap blanked
  | s => s.text

/-- A text with its comments blanked. -/
def masked (cs : List Char) : List Char :=
  (segments cs).flatMap Segment.masked

/-- The byte ranges of the string literals among segments that start at an offset. -/
def literalRanges (offset : Nat) : List Segment → List (Nat × Nat)
  | [] => []
  | s :: rest =>
    let stop := offset + byteLength s.text
    match s with
    | .literal _ => (offset, stop) :: literalRanges stop rest
    | _ => literalRanges stop rest

/-- The byte ranges of the string literals of a text. -/
def literals (cs : List Char) : List (Nat × Nat) :=
  literalRanges 0 (segments cs)

/-- Whether an offset lies in one of the ranges. -/
def covered (ranges : List (Nat × Nat)) (offset : Nat) : Bool :=
  ranges.any fun r => r.1 ≤ offset && offset < r.2

end LuaBundler.Source
