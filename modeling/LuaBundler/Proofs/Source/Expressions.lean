import LuaBundler.Proofs.Source.Reported

/-!
# Which requires of an expression are discovered

A require of an expression is told by the segments of the text: the word `require` in code, and
parentheses around an argument in which the parentheses of code are balanced and which is not just
a literal name (`HasExpression`).

Of such a require the masked text is read up to the first closing parenthesis on the line, be it
that of a call in the argument or one in a literal, and not at all if the line ends before
(`callAfter?_of_hasExpression`). So it is reported with its whole argument exactly if the search
comes to it and the argument has neither a closing parenthesis nor a line feed
(`dynamicAt_eq_singleton_iff`); otherwise only the start of the argument is reported, or nothing
(`dynamicAt_eq`).
-/

namespace LuaBundler.Source

open Text

/-- Segments in which the parentheses of code are balanced. -/
inductive Balanced : List Segment → Prop
  | nil : Balanced []
  | cons {s : Segment} {ss : List Segment} (hopen : s ≠ .code '(') (hclose : s ≠ .code ')')
      (hss : Balanced ss) : Balanced (s :: ss)
  | nest {inner ss : List Segment} (hinner : Balanced inner) (hss : Balanced ss) :
      Balanced (.code '(' :: inner ++ .code ')' :: ss)

/-- A literal name alone, with blanks and comments around it. -/
def IsNameAlone (argument : List Segment) : Prop :=
  ∃ left s right name, (∀ g ∈ left, g.isGap = true) ∧ s.Spells name ∧
    (∀ g ∈ right, g.isGap = true) ∧ argument = left ++ s :: right

/-- A text has a require of an expression behind some of its segments: the word `require`, which no
other word runs into, and an argument in parentheses that is not just a literal name. -/
structure HasExpression (source : String) (before argument : List Segment) : Prop where
  boundary : startsWord (lastCode? before) = true
  balanced : Balanced argument
  not_name : ¬ IsNameAlone argument
  spelled : ∃ gap after, (∀ g ∈ gap, g.isGap = true) ∧ segments source.toList =
    before ++ keyword.map .code ++ gap ++ .code '(' :: (argument ++ .code ')' :: after)

/-! ### Arguments -/

/-- Before a closing parenthesis of balanced segments there is an opening one. -/
theorem Balanced.mem_of_append {ss front back : List Segment} (h : Balanced ss)
    (hss : ss = front ++ .code ')' :: back) : .code '(' ∈ front := by
  induction h generalizing front with
  | nil => simp at hss
  | cons hopen hclose _ ih =>
    cases front with
    | nil => exact absurd (List.cons.inj hss).1 hclose
    | cons s front => exact List.mem_cons_of_mem _ (ih (List.cons.inj hss).2)
  | nest =>
    cases front with
    | nil => simp at hss
    | cons s front =>
      rw [List.cons_append, List.cons_append, List.cons.injEq] at hss
      rw [← hss.1]
      exact List.mem_cons_self ..

/-- The segments of a literal name alone hold no parenthesis of code. -/
theorem not_mem_of_isNameAlone {argument : List Segment} (h : IsNameAlone argument) {c : Char}
    (hc : isBlank c = false) : .code c ∉ argument := by
  obtain ⟨left, s, right, name, hleft, ⟨quote, -, -, rfl⟩, hright, rfl⟩ := h
  simp only [List.mem_append, List.mem_cons, reduceCtorEq, false_or, not_or]
  exact ⟨fun hmem ↦ by simpa [Segment.isGap, hc] using hleft _ hmem,
    fun hmem ↦ by simpa [Segment.isGap, hc] using hright _ hmem⟩

theorem takeWhile_ne {α : Type} [DecidableEq α] {a : α} {front : List α} (h : a ∉ front)
    (back : List α) : (front ++ a :: back).takeWhile (· ≠ a) = front := by
  have hfront : ∀ b ∈ front, decide (b ≠ a) = true := fun b hb ↦ by
    simpa using fun heq : b = a ↦ h (heq ▸ hb)
  rw [List.takeWhile_append_of_pos hfront, List.takeWhile_cons_of_neg (by simp), List.append_nil]

/-- An argument that is not just a literal name is not read as one. -/
theorem enclosedName?_eq_none {cs : List Char} {argument after : List Segment}
    (hbalanced : Balanced argument) (hname : ¬ IsNameAlone argument)
    (h : segments cs = argument ++ .code ')' :: after) : enclosedName? (masked cs) = none := by
  refine Option.eq_none_iff_forall_ne_some.2 fun ⟨name, size⟩ hread ↦ ?_
  obtain ⟨left, s, right, rest, hleft, hs, hright, hsegments⟩ := exists_of_enclosedName? hread
  have halone : IsNameAlone (left ++ s :: right) := ⟨left, s, right, name, hleft, hs, hright, rfl⟩
  -- the name ends before the first closing parenthesis
  have hfirst := takeWhile_ne (not_mem_of_isNameAlone halone (c := ')') (by decide)) (segments rest)
  rw [List.append_assoc, List.cons_append, ← hsegments, h] at hfirst
  by_cases hmem : .code ')' ∈ argument
  · obtain ⟨front, back, rfl, hfront⟩ := List.eq_append_cons_of_mem hmem
    rw [List.append_assoc, List.cons_append, takeWhile_ne hfront] at hfirst
    have hopen := hbalanced.mem_of_append rfl
    rw [hfirst] at hopen
    exact not_mem_of_isNameAlone halone (by decide) hopen
  · rw [takeWhile_ne hmem] at hfirst
    exact hname (hfirst ▸ halone)

theorem expression?_cons (c : Char) (cs : List Char) :
    expression? (c :: cs) =
      if isExpressionChar c = true then
        (expression? cs).map fun (text, size) ↦ (c :: text, size + 1)
      else if c = ')' then some ([], 1) else none := by
  unfold expression?
  by_cases hc : isExpressionChar c = true
  · rw [if_pos hc, List.takeWhile_cons_of_pos hc]
    simp only [List.length_cons, List.drop_succ_cons]
    split <;> rfl
  · rw [if_neg hc, List.takeWhile_cons_of_neg hc]
    simp

/-- What is read as an expression ends at the first closing parenthesis. -/
theorem expression?_append (text tail : List Char) :
    expression? (text ++ ')' :: tail) = expression? (text ++ [')']) := by
  induction text with
  | nil => simp [expression?_cons, isExpressionChar]
  | cons c text ih => rw [List.cons_append, List.cons_append, expression?_cons, expression?_cons, ih]

/-- A text that is read as an expression is what stands before a closing parenthesis, with no other
one and no line feed in it. -/
theorem eq_of_expression? {cs text : List Char} {size : Nat} (h : expression? cs = some (text, size)) :
    (∀ c ∈ text, isExpressionChar c = true) ∧ ∃ rest, cs = text ++ ')' :: rest := by
  rw [expression?, Option.ite_none_right_eq_some] at h
  obtain ⟨hclose, heq⟩ := h
  obtain ⟨rfl, -⟩ := Prod.mk.inj (Option.some.inj heq)
  obtain ⟨rest, hrest⟩ := List.head?_eq_some_iff.1 hclose
  refine ⟨fun c hc ↦ List.mem_takeWhile_imp hc, rest, ?_⟩
  rw [← hrest]
  exact (List.prefix_iff_eq_append.1 (List.takeWhile_prefix _)).symm

theorem expression?_of_forall {text : List Char} (h : ∀ c ∈ text, isExpressionChar c = true)
    (rest : List Char) : expression? (text ++ ')' :: rest) = some (text, text.length + 1) := by
  have htake : (text ++ ')' :: rest).takeWhile isExpressionChar = text := by
    rw [List.takeWhile_append_of_pos h, List.takeWhile_cons_of_neg (by decide), List.append_nil]
  simp [expression?, htake]

/-! ### What is read -/

variable {source : String} {before argument : List Segment}

theorem HasExpression.segments_eq (h : HasExpression source before argument) :
    ∃ rest, segments source.toList = before ++ .code 'r' :: rest := by
  obtain ⟨gap, after, -, hsegments⟩ := h.spelled
  exact ⟨_, by rw [hsegments, List.append_assoc, List.append_assoc]; rfl⟩

/-- **A require of an expression is read from the masked text** up to the first closing parenthesis
of its line. -/
theorem HasExpression.exists_callAfter? (h : HasExpression source before argument) :
    ∃ tail n, masked source.toList = before.flatMap Segment.masked ++ tail ∧
      callAfter? (before.flatMap Segment.masked).getLast? tail =
        (expression? (argument.flatMap Segment.masked ++ [')'])).map
          fun (text, size) ↦ (.expression text, n + size) := by
  obtain ⟨gap, after, hgap, hsegments⟩ := h.spelled
  obtain ⟨rest, hcode⟩ := h.segments_eq
  have hsplit : segments source.toList = (before ++ keyword.map .code ++ gap ++ [.code '(']) ++
      (argument ++ .code ')' :: after) := by
    rw [hsegments]
    simp
  obtain ⟨inner, hinner⟩ := segments_of_append hsplit
  have hmasked : masked inner = argument.flatMap Segment.masked ++ ')' ::
      after.flatMap Segment.masked := by
    rw [masked, hinner, List.flatMap_append]
    rfl
  have hargument : argument? ('(' :: masked inner) =
      (expression? (argument.flatMap Segment.masked ++ [')'])).map
        fun (text, size) ↦ (.expression text, size + 1) := by
    rw [argument?, enclosedName?_eq_none h.balanced h.not_name hinner]
    rw [hmasked, expression?_append]
  refine ⟨keyword ++ (gap.flatMap Segment.masked ++ '(' :: masked inner),
    keyword.length + (gap.flatMap Segment.masked).length + 1, ?_, ?_⟩
  · rw [masked, hsplit, hmasked]
    simp [Segment.masked, Segment.text, keyword]
  · have hopen : ∀ c ∈ ('(' :: masked inner).head?, isBlank c = false := by
      simp
      decide
    rw [callAfter?, if_pos (startsWord_of_segments hcode (by decide) h.boundary),
      call?_eq hgap hopen, hargument, Option.map_map]
    congr 1
    funext found
    simp only [Function.comp_apply, Prod.mk.injEq, true_and]
    omega

/-! ### What is discovered -/

/-- The requires of expressions that are reported at a place. -/
def dynamicAt (source : String) (place : Position) : List DynamicRequire :=
  (discover source).dynamic.filter fun d ↦ d.line = place.line && d.column = place.column

/-- The require of an expression that is reported at a place; blanks around it are dropped. -/
def expressionAt (place : Position) (text : List Char) : DynamicRequire :=
  ⟨String.ofList (trim text), place.line, place.column⟩

theorem dynamic?_eq_some_iff {site : CallSite} {d : DynamicRequire} :
    site.dynamic? = some d ↔
      ∃ text, site.argument = .expression text ∧ d = expressionAt site.position text := by
  unfold CallSite.dynamic?
  split <;> simp_all [expressionAt, eq_comm]

/-- No require is reported twice. -/
theorem nodup_dynamic (source : String) : (discover source).dynamic.Nodup := by
  refine ((pairwise_sitesBehind [] (masked source.toList)).filter _).filterMap _ ?_
  rintro site site' hsorted d hd _ hd' rfl
  obtain ⟨text, -, rfl⟩ := dynamic?_eq_some_iff.1 hd
  obtain ⟨text', -, heq⟩ := dynamic?_eq_some_iff.1 hd'
  simp only [expressionAt, DynamicRequire.mk.injEq] at heq
  omega

/-- What is reported at the place of a require of an expression is what is read there. -/
theorem mem_dynamicAt_iff (h : HasExpression source before argument) {d : DynamicRequire} :
    d ∈ dynamicAt source (placeAfter before) ↔
      (lastCode? before ≠ some '.' ∧ lastCode? before ≠ some ':' ∧
        ¬ Overrun (masked source.toList) (before.flatMap Segment.masked)) ∧
      ∃ text size, expression? (argument.flatMap Segment.masked ++ [')']) = some (text, size) ∧
        d = expressionAt (placeAfter before) text := by
  obtain ⟨rest, hcode⟩ := h.segments_eq
  obtain ⟨tail, n, hmasked, hcall⟩ := h.exists_callAfter?
  rw [dynamicAt, List.mem_filter, Bool.and_eq_true, decide_eq_true_eq, decide_eq_true_eq]
  constructor
  · rintro ⟨hmem, hline, hcolumn⟩
    obtain ⟨site, hsite, hdynamic⟩ := List.mem_filterMap.1 hmem
    obtain ⟨hfound, hfree, -⟩ := mem_requireSites_iff.1 hsite
    obtain ⟨text, htext, rfl⟩ := dynamic?_eq_some_iff.1 hdynamic
    -- its line and column say that it is the site of the require
    obtain ⟨done, left, size, hsplit, heq, hread⟩ := exists_of_mem_sites hfound
    have hposition : site.position = Position.start.pass done := congrArg CallSite.position heq
    rw [expressionAt, hposition, placeAfter, ← Position.pass_flatMap_masked] at hline hcolumn
    obtain rfl := eq_of_line_column (hsplit.symm.trans hmasked) hline hcolumn
    obtain rfl := List.append_cancel_left (hsplit.symm.trans hmasked)
    rw [heq] at hfree hfound
    have hnotover := (mem_sites_iff hmasked hread).1 hfound
    rw [isFree_siteAt_iff hcode (by decide)] at hfree
    rw [hcall, htext, Option.map_eq_some_iff] at hread
    obtain ⟨⟨text', size'⟩, hexpression, hargument⟩ := hread
    obtain rfl : text' = text := by simpa using (Prod.mk.inj hargument).1
    refine ⟨⟨hfree.1, hfree.2, hnotover⟩, text', size', hexpression, ?_⟩
    rw [heq, (position_siteAt_of_segments hcode _).1]
  · rintro ⟨⟨hdot, hcolon, hnotover⟩, text, size, hexpression, rfl⟩
    rw [hexpression, Option.map_some] at hcall
    obtain ⟨hposition, hcovered⟩ := position_siteAt_of_segments hcode (.expression text)
    refine ⟨List.mem_filterMap.2 ⟨_, mem_requireSites_iff.2
      ⟨(mem_sites_iff hmasked hcall).2 hnotover, ?_, ?_⟩, ?_⟩, rfl, rfl⟩
    · exact (isFree_siteAt_iff hcode (by decide) _).2 ⟨hdot, hcolon⟩
    · rw [hposition, hcovered]
    · exact dynamic?_eq_some_iff.2 ⟨text, rfl, by rw [hposition]⟩

theorem eq_toList_of_mem_iff {α : Type} {xs : List α} {o : Option α} (hxs : xs.Nodup)
    (h : ∀ x, x ∈ xs ↔ o = some x) : xs = o.toList := by
  cases o with
  | none => exact List.eq_nil_iff_forall_not_mem.2 fun x hx ↦ by simpa using (h x).1 hx
  | some y =>
    refine List.perm_singleton.1 ((List.perm_ext_iff_of_nodup hxs (by simp)).2 ?_)
    intro x
    rw [h, Option.some.injEq, List.mem_singleton, eq_comm]

/-- **What is reported of a require of an expression**: nothing if the search does not come to it,
and else what stands before the first closing parenthesis of its line, if there is one. -/
theorem dynamicAt_eq (h : HasExpression source before argument) :
    (lastCode? before ≠ some '.' ∧ lastCode? before ≠ some ':' ∧
        ¬ Overrun (masked source.toList) (before.flatMap Segment.masked) →
      dynamicAt source (placeAfter before) =
        ((expression? (argument.flatMap Segment.masked ++ [')'])).map
          fun (text, _) ↦ expressionAt (placeAfter before) text).toList) ∧
    (¬(lastCode? before ≠ some '.' ∧ lastCode? before ≠ some ':' ∧
        ¬ Overrun (masked source.toList) (before.flatMap Segment.masked)) →
      dynamicAt source (placeAfter before) = []) := by
  constructor
  · intro hfound
    refine eq_toList_of_mem_iff ((nodup_dynamic source).filter _) fun d ↦ ?_
    refine ((mem_dynamicAt_iff h).trans (and_iff_right hfound)).trans ?_
    simp only [Option.map_eq_some_iff, Prod.exists, @eq_comm _ d]
  · intro hmissed
    exact List.eq_nil_iff_forall_not_mem.2 fun d hd ↦ hmissed ((mem_dynamicAt_iff h).1 hd).1

/-- Trimming takes only blanks. -/
theorem mem_trim_iff {cs : List Char} {c : Char} (hc : isBlank c = false) :
    c ∈ trim cs ↔ c ∈ cs := by
  have hdrop : ∀ ds : List Char, c ∈ dropBlanks ds ↔ c ∈ ds := by
    intro ds
    refine ⟨fun hmem ↦ (List.dropWhile_sublist _).mem hmem, fun hmem ↦ ?_⟩
    rw [← List.takeWhile_append_dropWhile (p := isBlank) (l := ds)] at hmem
    refine (List.mem_append.1 hmem).resolve_left fun hblank ↦ ?_
    simp [List.mem_takeWhile_imp hblank] at hc
  rw [trim, trimEnd, List.mem_reverse, hdrop, List.mem_reverse, hdrop]

/-- **When a require of an expression is reported as what it is**: exactly if no dot or colon stands
right before it, no call found earlier takes it in, and its argument, with comments blanked, holds
neither a closing parenthesis nor a line feed. -/
theorem dynamicAt_eq_singleton_iff (h : HasExpression source before argument) :
    dynamicAt source (placeAfter before) =
        [expressionAt (placeAfter before) (argument.flatMap Segment.masked)] ↔
      (lastCode? before ≠ some '.' ∧ lastCode? before ≠ some ':' ∧
        ¬ Overrun (masked source.toList) (before.flatMap Segment.masked)) ∧
      ∀ c ∈ argument.flatMap Segment.masked, isExpressionChar c = true := by
  obtain ⟨hread, hmissed⟩ := dynamicAt_eq h
  constructor
  · intro heq
    by_cases hfound : lastCode? before ≠ some '.' ∧ lastCode? before ≠ some ':' ∧
        ¬ Overrun (masked source.toList) (before.flatMap Segment.masked)
    · refine ⟨hfound, ?_⟩
      rw [hread hfound] at heq
      obtain ⟨text, size, hexpression, htrim⟩ : ∃ text size,
          expression? (argument.flatMap Segment.masked ++ [')']) = some (text, size) ∧
            trim text = trim (argument.flatMap Segment.masked) := by
        cases hexpression : expression? (argument.flatMap Segment.masked ++ [')']) with
        | none => simp [hexpression] at heq
        | some found =>
          refine ⟨found.1, found.2, rfl, String.ofList_injective ?_⟩
          simpa [hexpression, expressionAt] using heq
      obtain ⟨htext, rest, hsplit⟩ := eq_of_expression? hexpression
      rcases rest.eq_nil_or_concat with rfl | ⟨rest, c, rfl⟩
      · rwa [(List.append_inj' hsplit rfl).1]
      · -- what is left out starts with a closing parenthesis, which trimming would not take
        rw [List.concat_eq_append, ← List.cons_append, ← List.append_assoc] at hsplit
        have hmem : ')' ∈ trim text := by
          rw [htrim, mem_trim_iff (by decide), (List.append_inj' hsplit rfl).1]
          simp
        exact absurd (htext _ ((mem_trim_iff (by decide)).1 hmem)) (by decide)
    · rw [hmissed hfound] at heq
      simp at heq
  · rintro ⟨hfound, hall⟩
    rw [hread hfound, expression?_of_forall hall]
    rfl

/-! ### At fixed texts -/

theorem balanced_of_forall {ss : List Segment} (h : ∀ s ∈ ss, s ≠ .code '(' ∧ s ≠ .code ')') :
    Balanced ss := by
  induction ss with
  | nil => exact .nil
  | cons s ss ih =>
    obtain ⟨⟨hopen, hclose⟩, hss⟩ := List.forall_mem_cons.1 h
    exact .cons hopen hclose (ih hss)

/-- A require of an expression with a literal and with a parenthesis in a comment. -/
def requireOfConcatenation : String :=
  "local m = require ( --[[ ) ]] prefix .. \".net\" )"

/-- It is reported as what it is. -/
theorem dynamicAt_requireOfConcatenation :
    ∃ before argument, HasExpression requireOfConcatenation before argument ∧
      dynamicAt requireOfConcatenation (placeAfter before) = [⟨"prefix .. \".net\"", 1, 11⟩] ∧
      ¬ Overrun (masked requireOfConcatenation.toList) (before.flatMap Segment.masked) ∧
      ∀ c ∈ argument.flatMap Segment.masked, isExpressionChar c = true := by
  have h : HasExpression requireOfConcatenation ("local m = ".toList.map .code)
      ([.code ' ', .comment "--[[ ) ]]".toList] ++ " prefix .. ".toList.map .code ++
        [.literal "\".net\"".toList, .code ' ']) := by
    refine ⟨by decide, balanced_of_forall (by decide), fun halone ↦ ?_, ?_⟩
    · exact not_mem_of_isNameAlone halone (c := '.') (by decide) (by decide)
    · exact ⟨[.code ' '], [], by decide, by decide +kernel⟩
  have hdynamic : dynamicAt requireOfConcatenation (placeAfter ("local m = ".toList.map .code)) =
      [⟨"prefix .. \".net\"", 1, 11⟩] := by decide +kernel
  obtain ⟨⟨-, -, hover⟩, hall⟩ := (dynamicAt_eq_singleton_iff h).1 (hdynamic.trans (by decide))
  exact ⟨_, _, h, hdynamic, hover, hall⟩

/-- A require of a call, and one over two lines. -/
def cutRequires : String :=
  "local a = require(f(x))\nlocal b = require(\n  name)\n"

/-- **Not every require of an expression is reported as what it is**: one is cut off, and one is
lost. -/
theorem dynamicAt_cutRequires :
    (∃ before argument, HasExpression cutRequires before argument ∧ followsAccess before = false ∧
      expressionAt (placeAfter before) (argument.flatMap Segment.masked) = ⟨"f(x)", 1, 11⟩ ∧
      dynamicAt cutRequires (placeAfter before) = [⟨"f(x", 1, 11⟩]) ∧
    (∃ before argument, HasExpression cutRequires before argument ∧ followsAccess before = false ∧
      expressionAt (placeAfter before) (argument.flatMap Segment.masked) = ⟨"name", 2, 11⟩ ∧
      dynamicAt cutRequires (placeAfter before) = []) := by
  have hinner : Balanced [.code 'x'] := balanced_of_forall (by decide)
  have hcall : HasExpression cutRequires ("local a = ".toList.map .code)
      [.code 'f', .code '(', .code 'x', .code ')'] := by
    refine ⟨by decide, ?_, fun halone ↦ ?_, [], "\nlocal b = require(\n  name)\n".toList.map .code,
      by decide, by decide +kernel⟩
    · exact .cons (by decide) (by decide) (.nest hinner .nil)
    · exact not_mem_of_isNameAlone halone (c := 'f') (by decide) (by decide)
  have hlines : HasExpression cutRequires
      ("local a = require(f(x))\nlocal b = ".toList.map .code) ("\n  name".toList.map .code) := by
    refine ⟨by decide, balanced_of_forall (by decide), fun halone ↦ ?_, [], [.code '\n'],
      by decide, by decide +kernel⟩
    exact not_mem_of_isNameAlone halone (c := 'n') (by decide) (by decide)
  exact ⟨⟨_, _, hcall, by decide, by decide, by decide +kernel⟩,
    ⟨_, _, hlines, by decide, by decide, by decide +kernel⟩⟩

end LuaBundler.Source
