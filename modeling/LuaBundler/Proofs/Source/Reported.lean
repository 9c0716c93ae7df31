import LuaBundler.Proofs.Source.Discovery
import LuaBundler.Proofs.Source.Stability
import Mathlib.Data.List.DropRight

/-!
# What is reported is a require

Requires are read from the masked text, and reported at their places in the source. Each step of the
reading follows the segments of the source: what is no blank and no delimiter is code
(`segments_of_masked_cons`), blanks are whole gaps (`exists_gap`), and a quoted name is a literal, as
a quote that no literal takes in opens one (`exists_of_quotedName?`). So a call that is read from
masked text is the word `require` in code with an argument that passes the name
(`exists_of_call?`).

A site that lies in no literal starts with code of the source (`exists_of_not_covered`), which gives
every reported require its place there (`literal_discover_spec`).
-/

namespace LuaBundler.Source

open Text

variable {cs rest : List Char} {name : List Char}

/-! ### Segments from masked text -/

/-- A segment starts, masked, with the character it starts with, or with a blank. -/
theorem head?_masked_of_next? {s : Segment} (h : Segment.next? cs = some (s, rest)) :
    ∃ c, s.masked.head? = some c ∧
      ((∃ text, s = .comment text ∧ c = ' ') ∨ s = .code c ∨
        (∃ text, s = .literal text ∧ c ∈ ['"', '\'', '['])) := by
  cases s with
  | code c => exact ⟨c, rfl, .inr (.inl rfl)⟩
  | comment text =>
    obtain ⟨-, tail, rfl⟩ := Segment.head?_of_next?_comment h
    exact ⟨' ', rfl, .inl ⟨_, rfl, rfl⟩⟩
  | literal text =>
    cases Segment.next?_eq_some_iff.1 h with
    | @quoted quote tail hquote =>
      refine ⟨quote, rfl, .inr (.inr ⟨_, rfl, ?_⟩)⟩
      rcases hquote with rfl | rfl <;> simp
    | bracket hlevel =>
      obtain ⟨tail, rfl⟩ := eq_of_bracketLevel? hlevel
      exact ⟨'[', rfl, .inr (.inr ⟨_, rfl, by simp⟩)⟩

/-- A text whose masked text is not empty starts with a segment. -/
theorem exists_next?_of_masked_ne_nil (h : masked cs ≠ []) :
    ∃ s rest, Segment.next? cs = some (s, rest) ∧ segments cs = s :: segments rest ∧
      masked cs = s.masked ++ masked rest := by
  cases hnext : Segment.next? cs with
  | none =>
    rw [Segment.next?_eq_none_iff.1 hnext, masked_nil] at h
    exact absurd rfl h
  | some next => exact ⟨_, _, rfl, segments_of_next? hnext, masked_of_next? hnext⟩

/-- **Masked text that starts with no blank and no delimiter** starts with code of the text. -/
theorem segments_of_masked_cons {c : Char} {tail : List Char} (h : masked cs = c :: tail)
    (hc : c ∉ [' ', '"', '\'', '[']) :
    ∃ rest, segments cs = .code c :: segments rest ∧ tail = masked rest := by
  obtain ⟨s, rest, hnext, hsegments, hmasked⟩ :=
    exists_next?_of_masked_ne_nil (h ▸ List.cons_ne_nil c tail)
  obtain ⟨d, hd, hkind⟩ := head?_masked_of_next? hnext
  obtain ⟨front, hfront⟩ := List.head?_eq_some_iff.1 hd
  rw [h, hfront, List.cons_append, List.cons.injEq] at hmasked
  obtain ⟨rfl, htail⟩ := hmasked
  simp only [List.mem_cons, List.not_mem_nil, or_false, not_or] at hc
  rcases hkind with ⟨-, -, hblank⟩ | rfl | ⟨-, -, hmem⟩
  · exact absurd hblank hc.1
  · obtain rfl : front = [] := (List.cons.inj hfront).2.symm
    exact ⟨rest, hsegments, htail⟩
  · simp only [List.mem_cons, List.not_mem_nil, or_false] at hmem
    tauto

/-- A word of such characters in masked text is one of code. -/
theorem segments_of_masked_append {word : List Char} (hword : ∀ c ∈ word, c ∉ [' ', '"', '\'', '['])
    {tail : List Char} (h : masked cs = word ++ tail) :
    ∃ rest, segments cs = word.map .code ++ segments rest ∧ tail = masked rest := by
  induction word generalizing cs with
  | nil => exact ⟨cs, rfl, h.symm⟩
  | cons c word ih =>
    obtain ⟨next, hsegments, hnext⟩ := segments_of_masked_cons h (hword c (List.mem_cons_self ..))
    obtain ⟨rest, hword, hrest⟩ := ih (fun d hd ↦ hword d (List.mem_cons_of_mem _ hd)) hnext.symm
    exact ⟨rest, by rw [hsegments, hword]; rfl, hrest⟩

/-- **Blanks of masked text** are whole gaps of the text. -/
theorem exists_gap (cs : List Char) :
    ∃ gap rest, (∀ g ∈ gap, g.isGap = true) ∧ segments cs = gap ++ segments rest ∧
      (masked cs).drop (blanks (masked cs)) = masked rest := by
  fun_induction segments cs with
  | case1 cs hnone =>
    obtain rfl := Segment.next?_eq_none_iff.1 hnone
    exact ⟨[], [], by simp, by simp, by simp⟩
  | case2 cs s tail hnext _ ih =>
    obtain ⟨gap, rest, hgap, hsegments, hdrop⟩ := ih
    by_cases hs : s.isGap = true
    · refine ⟨s :: gap, rest, ?_, by rw [hsegments]; rfl, ?_⟩
      · rintro g hg
        rcases List.mem_cons.1 hg with rfl | hg
        · exact hs
        · exact hgap g hg
      · have hblank : ∀ c ∈ s.masked, isBlank c = true := by
          have hall : ∀ g ∈ [s], g.isGap = true := by simpa using hs
          simpa using isBlank_of_isGap hall
        rw [masked_of_next? hnext, blanks, List.takeWhile_append_of_pos hblank, List.length_append,
          ← List.drop_drop, List.drop_left]
        exact hdrop
    · refine ⟨[], cs, by simp, by rw [segments_of_next? hnext]; rfl, ?_⟩
      -- a segment that is no gap starts with what is no blank
      obtain ⟨c, hc, hkind⟩ := head?_masked_of_next? hnext
      have hblank : ¬ isBlank c = true := by
        rcases hkind with ⟨text, rfl, -⟩ | rfl | ⟨text, -, hmem⟩
        · exact absurd rfl hs
        · exact hs
        · have hdelims : ∀ d ∈ ['"', '\'', '['], ¬ isBlank d = true := by simp [isBlank]
          exact hdelims c hmem
      obtain ⟨front, hfront⟩ := List.head?_eq_some_iff.1 hc
      rw [masked_of_next? hnext, hfront, List.cons_append, blanks, List.takeWhile_cons_of_neg hblank]
      rfl

/-! ### Reading a call -/

/-- A short literal ends at the first quote behind characters of a name. -/
theorem splitQuoted_of_isNameChar {quote : Char} (hquote : quote = '"' ∨ quote = '\'')
    (hname : ∀ c ∈ name, isNameChar quote c = true) (tail : List Char) :
    splitQuoted quote (name ++ quote :: tail) = (name ++ [quote], tail) := by
  induction name with
  | nil => rcases hquote with rfl | rfl <;> rfl
  | cons c name ih =>
    have hc := hname c (List.mem_cons_self ..)
    simp only [isNameChar, Bool.and_eq_true, decide_eq_true_eq] at hc
    obtain ⟨⟨hend, hescape⟩, hline⟩ := hc
    rw [List.cons_append, splitQuoted, if_neg hline, if_neg hend,
      ih fun d hd ↦ hname d (List.mem_cons_of_mem _ hd)]
    · rfl
    · rintro d ds rfl
      exact absurd rfl hescape

/-- A quoted name that is read stands between two quotes of one kind. -/
theorem eq_of_quotedName? {size : Nat} (h : quotedName? cs = some (name, size)) :
    ∃ quote tail, (quote = '"' ∨ quote = '\'') ∧ (∀ c ∈ name, isNameChar quote c = true) ∧
      cs = quote :: (name ++ quote :: tail) ∧ size = name.length + 2 := by
  cases cs with
  | nil => simp [quotedName?] at h
  | cons quote cs =>
    simp only [quotedName?, Option.ite_none_right_eq_some, Option.some.injEq, Prod.mk.injEq] at h
    obtain ⟨⟨hquote, hend⟩, rfl, rfl⟩ := h
    obtain ⟨tail, htail⟩ := List.head?_eq_some_iff.1 hend
    refine ⟨quote, tail, hquote, fun c hc ↦ List.mem_takeWhile_imp hc, ?_, rfl⟩
    rw [← htail, List.prefix_iff_eq_append.1 (List.takeWhile_prefix _)]

/-- **A quoted name of masked text** is a literal of the text that spells it. -/
theorem exists_of_quotedName? {size : Nat} (h : quotedName? (masked cs) = some (name, size)) :
    ∃ s rest, s.Spells name ∧ segments cs = s :: segments rest ∧
      (masked cs).drop size = masked rest := by
  obtain ⟨quote, tail, hquote, hname, hcs, rfl⟩ := eq_of_quotedName? h
  have hne : masked cs ≠ [] := by simp [hcs]
  obtain ⟨s, rest, hnext, hsegments, hmasked⟩ := exists_next?_of_masked_ne_nil hne
  obtain ⟨c, hc, hkind⟩ := head?_masked_of_next? hnext
  obtain ⟨front, hfront⟩ := List.head?_eq_some_iff.1 hc
  obtain rfl : c = quote := by
    rw [hcs, hfront] at hmasked
    exact (List.cons.inj hmasked).1.symm
  rcases hkind with ⟨-, -, rfl⟩ | rfl | ⟨text, rfl, -⟩
  · simp at hquote
  · obtain rfl : c :: rest = cs := Segment.append_next? hnext
    obtain ⟨-, -, -, hdouble, hsingle, -⟩ := Segment.next?_eq_code_iff.1 hnext
    exact absurd hquote (not_or.2 ⟨hdouble, hsingle⟩)
  · -- scanned again in the masked text, the literal ends at the quote behind the name
    have hagain := Segment.next?_literal_masked hnext
    rw [show text ++ masked rest = masked cs from hmasked.symm, hcs,
      Segment.next?_eq_some_iff.2 (.quoted hquote), splitQuoted_of_isNameChar hquote hname] at hagain
    obtain ⟨htext, htail⟩ := Prod.mk.inj (Option.some.inj hagain)
    refine ⟨_, rest, ⟨c, hquote, hname, htext.symm⟩, hsegments, ?_⟩
    rw [hcs, ← htail]
    simp

/-- A quoted name of masked text with a closing parenthesis is a literal of the text with gaps around
it and that parenthesis. -/
theorem exists_of_enclosedName? {size : Nat} (h : enclosedName? (masked cs) = some (name, size)) :
    ∃ left s right rest, (∀ g ∈ left, g.isGap = true) ∧ s.Spells name ∧
      (∀ g ∈ right, g.isGap = true) ∧
      segments cs = left ++ s :: (right ++ .code ')' :: segments rest) := by
  obtain ⟨left, next, hleft, hsegments, hdrop⟩ := exists_gap cs
  simp only [enclosedName?, hdrop] at h
  split at h
  · simp at h
  · rename_i text width hquoted
    obtain ⟨s, behind, hs, hliteral, hbehind⟩ := exists_of_quotedName? hquoted
    obtain ⟨right, last, hright, hgap, hlast⟩ := exists_gap behind
    simp only [← List.drop_drop, hdrop, hbehind, hlast, Option.ite_none_right_eq_some,
      Option.some.injEq, Prod.mk.injEq] at h
    obtain ⟨hclose, rfl, -⟩ := h
    obtain ⟨tail, htail⟩ := List.head?_eq_some_iff.1 hclose
    obtain ⟨rest, hcode, -⟩ := segments_of_masked_cons htail (by decide)
    exact ⟨left, s, right, rest, hleft, hs, hright, by rw [hsegments, hliteral, hgap, hcode]⟩

/-- **A call of a name in masked text** is the word `require` in code of the text, with an argument
that passes the name. -/
theorem exists_of_call? {size : Nat} (h : call? (masked cs) = some (.name name, size)) :
    ∃ argument rest, PassesName name argument ∧
      segments cs = keyword.map .code ++ argument ++ segments rest := by
  obtain ⟨tail, width, htail, hargument, -⟩ := eq_of_call? h
  obtain ⟨rest, hsegments, rfl⟩ := segments_of_masked_append (by simp [keyword]) htail
  obtain ⟨gap, next, hgap, hgapsegments, hdrop⟩ := exists_gap rest
  rw [hdrop] at hargument
  unfold argument? at hargument
  split at hargument
  · rename_i inner hopen
    obtain ⟨behind, hopens, rfl⟩ := segments_of_masked_cons hopen (by decide)
    split at hargument
    · rename_i text width' henclosed
      obtain ⟨left, s, right, last, hleft, hs, hright, hlast⟩ := exists_of_enclosedName? henclosed
      obtain rfl : text = name := by simpa using (Prod.mk.inj (Option.some.inj hargument)).1
      refine ⟨_, last, .enclosed hgap hleft hs hright, ?_⟩
      rw [hsegments, hgapsegments, hopens, hlast]
      simp
    · simp at hargument
  · simp only [Option.map_eq_some_iff, Prod.mk.injEq, Prod.exists, Argument.name.injEq] at hargument
    obtain ⟨_, _, hquoted, rfl, -⟩ := hargument
    obtain ⟨s, last, hs, hlast, -⟩ := exists_of_quotedName? hquoted
    refine ⟨gap ++ [s], last, .bare hgap hs, ?_⟩
    rw [hsegments, hgapsegments, hlast]
    simp

/-! ### Where a site stands -/

/-- A character of masked text stands in one segment. -/
theorem exists_of_flatMap_masked_eq {ss : List Segment} {done tail : List Char} {c : Char}
    (h : ss.flatMap Segment.masked = done ++ c :: tail) :
    ∃ before s after front back, ss = before ++ s :: after ∧ s.masked = front ++ c :: back ∧
      done = before.flatMap Segment.masked ++ front := by
  induction ss generalizing done with
  | nil => simp at h
  | cons s ss ih =>
    rw [List.flatMap_cons] at h
    rcases List.append_eq_append_iff.1 h with ⟨done', rfl, hss⟩ | ⟨part, hpart, htail⟩
    · obtain ⟨before, t, after, front, back, rfl, ht, rfl⟩ := ih hss
      exact ⟨s :: before, t, after, front, back, rfl, ht, by simp⟩
    · cases part with
      | nil =>
        have hss : ss.flatMap Segment.masked = [] ++ c :: tail := htail.symm
        obtain ⟨before, t, after, front, back, rfl, ht, hdone⟩ := ih hss
        exact ⟨s :: before, t, after, front, back, rfl, ht, by
          rw [List.flatMap_cons, List.append_assoc, ← hdone, hpart, List.append_nil, List.append_nil]⟩
      | cons d part =>
        obtain rfl : c = d := (List.cons.inj htail).1
        exact ⟨[], s, ss, done, part, rfl, hpart, rfl⟩

/-- A place within a literal is covered by its range. -/
theorem covered_literalRanges (before after : List Segment) {text : List Char} {i : Nat}
    (h : i < byteLength text) :
    covered (literalRanges 0 (before ++ .literal text :: after))
      (byteLength (before.flatMap Segment.text) + i) = true := by
  rw [literalRanges_append, covered, List.any_append, literalRanges, List.any_cons]
  simp [Segment.text, h]

/-- **A character of masked text that is no blank and lies in no literal** is a segment of code. -/
theorem exists_of_not_covered {done tail : List Char} {c : Char} (h : masked cs = done ++ c :: tail)
    (hblank : isBlank c = false) (hcovered : covered (literals cs) (byteLength done) = false) :
    ∃ before rest, segments cs = before ++ segments rest ∧
      done = before.flatMap Segment.masked ∧ c :: tail = masked rest := by
  obtain ⟨before, s, after, front, back, hss, hs, rfl⟩ := exists_of_flatMap_masked_eq h
  obtain ⟨rest, hrest⟩ := segments_of_append hss
  have hfront : front = [] := by
    cases s with
    | code d =>
      cases front with
      | nil => rfl
      | cons _ front => simp [Segment.masked, Segment.text] at hs
    | comment text =>
      have hc : c ∈ [Segment.comment text].flatMap Segment.masked := by
        rw [List.flatMap_singleton, hs]
        simp
      have := isBlank_of_isGap (by simp [Segment.isGap]) c hc
      simp [hblank] at this
    | literal text =>
      have hwide : byteLength front < byteLength text := by
        rw [show text = front ++ c :: back from hs, byteLength_append]
        exact Nat.lt_add_of_pos_right (byteLength_pos (List.cons_ne_nil c back))
      rw [byteLength_append, byteLength_flatMap_masked, literals, hss,
        covered_literalRanges before after hwide] at hcovered
      simp at hcovered
  subst hfront
  refine ⟨before, rest, by rw [hss, hrest], by simp, ?_⟩
  rw [masked, hss, List.flatMap_append, List.append_nil, List.append_cancel_left_eq] at h
  rw [masked, hrest, h]

/-- A place where code starts lies in no comment. -/
theorem not_inComment {before rest : List Segment} {c : Char}
    (h : segments cs = before ++ .code c :: rest) :
    ¬ InComment cs (byteLength (before.flatMap Segment.text)) := by
  rintro ⟨before', text, after, hsegments, hstart, hstop⟩
  rcases List.append_eq_append_iff.1 (h.symm.trans hsegments) with ⟨ss, rfl, hss⟩ | ⟨ss, rfl, hss⟩
  · cases ss with
    | nil => simp at hss
    | cons s ss =>
      -- the comment stands behind the code
      obtain rfl : Segment.code c = s := (List.cons.inj hss).1
      have hwide : 0 < byteLength (Segment.code c).text := byteLength_pos (by simp [Segment.text])
      rw [List.flatMap_append, List.flatMap_cons, byteLength_append, byteLength_append] at hstart
      omega
  · cases ss with
    | nil => simp at hss
    | cons s ss =>
      -- the comment stands before the place
      obtain rfl : Segment.comment text = s := (List.cons.inj hss).1
      rw [List.flatMap_append, List.flatMap_cons, byteLength_append, byteLength_append,
        Segment.text] at hstop
      omega

/-! ### Lines, columns and order -/

/-- The column of a place counts the bytes of its line before it. -/
theorem Position.column_pass (cs : List Char) :
    (start.pass cs).column = 1 + byteLength (cs.rtakeWhile (· ≠ '\n')) := by
  induction cs using List.reverseRecOn with
  | nil => rfl
  | append_singleton cs c ih =>
    rw [pass_append, pass_cons, pass_nil]
    by_cases hc : c = '\n'
    · rw [List.rtakeWhile_concat_neg _ _ _ (by simp [hc]), advance, if_pos hc]
      rfl
    · rw [List.rtakeWhile_concat_pos _ _ _ (by simp [hc]), advance, if_neg hc, byteLength_append, ih]
      simp [byteLength, Nat.add_assoc]

/-- **Sites are found from left to right.** -/
theorem pairwise_sitesBehind (done rest : List Char) :
    (sitesBehind done rest).Pairwise fun a b ↦ a.position.line < b.position.line ∨
      (b.position.line = a.position.line ∧ a.position.column < b.position.column) := by
  induction done, rest using search_induction with
  | nil done => simp [sitesBehind, sitesFrom]
  | call done rest a size hcall ih =>
    rw [sitesBehind_of_call hcall]
    refine .cons (fun site hsite ↦ ?_) ih
    obtain ⟨before, _, _, _, ⟨passed, rfl⟩, hsite, -⟩ := exists_of_mem_sitesBehind hsite
    have hne : rest.take size ++ passed ≠ [] := by
      simp [ne_nil_of_callAfter? hcall, Nat.ne_of_gt (pos_of_callAfter? hcall)]
    rw [hsite, siteAt, siteAt, List.append_assoc, Position.pass_append]
    exact Position.lt_pass _ hne
  | skip done c rest hcall ih =>
    rw [sitesBehind_of_none hcall]
    exact ih

/-! ### What is reported -/

/-- One require stands before another in their source. -/
def Reference.IsBefore (a b : Reference) : Prop :=
  a.line < b.line ∨ (b.line = a.line ∧ a.column < b.column)

/-- A literal require stands in a source, right behind some of its segments. -/
structure Reference.StandsBehind (source : String) (before : List Segment) (ref : Reference) :
    Prop where
  /-- The word `require` in code, and an argument that passes the name. -/
  spelled : ∃ argument after, PassesName ref.name.toList argument ∧
    segments source.toList = before ++ keyword.map .code ++ argument ++ after
  boundary : startsWord (before.flatMap Segment.text).getLast? = true
  free : ∀ c ∈ (before.flatMap Segment.text).getLast?, c ≠ '.' ∧ c ≠ ':'
  not_inComment : ¬ InComment source.toList (byteLength (before.flatMap Segment.text))
  not_covered : covered (literals source.toList) (byteLength (before.flatMap Segment.text)) = false
  line_eq : ref.line = 1 + (before.flatMap Segment.text).count '\n'
  column_eq : ref.column = 1 + byteLength ((before.flatMap Segment.text).rtakeWhile (· ≠ '\n'))

/-- A call of a name outside literals is one in code of the text. -/
theorem exists_of_callAfter? {done tail : List Char} {size : Nat} {c : Option Char}
    (h : masked cs = done ++ tail) (hcall : callAfter? c tail = some (.name name, size))
    (hcovered : covered (literals cs) (byteLength done) = false) :
    ∃ before argument after, PassesName name argument ∧
      segments cs = before ++ keyword.map .code ++ argument ++ after ∧
      done = before.flatMap Segment.masked := by
  rw [callAfter?, Option.ite_none_right_eq_some] at hcall
  obtain ⟨tail, -, rfl, -⟩ := eq_of_call? hcall.2
  obtain ⟨before, rest, hsegments, hdone, hrest⟩ :=
    exists_of_not_covered (c := 'r') h (by decide) hcovered
  have hmasked : keyword ++ tail = masked rest := hrest
  obtain ⟨argument, after, hargument, hspelled⟩ := exists_of_call? (hmasked ▸ hcall.2)
  exact ⟨before, argument, segments after, hargument, by
    rw [hsegments, hspelled, ← List.append_assoc, ← List.append_assoc], hdone⟩

/-- **A literal require that is reported stands in the source.** -/
theorem exists_standsBehind {source : String} {ref : Reference}
    (h : ref ∈ (discover source).literal) : ∃ before, ref.StandsBehind source before := by
  obtain ⟨site, hsite, href⟩ := List.mem_filterMap.1 h
  obtain ⟨hfound, hfree, hcovered⟩ := mem_requireSites_iff.1 hsite
  obtain ⟨done, tail, size, hmasked, hplace, hcall⟩ := exists_of_mem_sites hfound
  obtain ⟨name, hname, rfl⟩ := CallSite.reference?_eq_some_iff.1 href
  have hposition : site.position = Position.start.pass done := congrArg CallSite.position hplace
  have hlast : site.before = done.getLast? := congrArg CallSite.before hplace
  rw [hposition, Position.offset_pass, show Position.start.offset = 0 from rfl, Nat.zero_add]
    at hcovered
  obtain ⟨before, argument, after, hargument, hsegments, rfl⟩ :=
    exists_of_callAfter? hmasked (hname ▸ hcall) hcovered
  have hcode : segments source.toList = before ++ .code 'r' ::
      (keyword.tail.map .code ++ argument ++ after) := by
    rw [hsegments, List.append_assoc, List.append_assoc]
    rfl
  rw [Position.pass_flatMap_masked] at hposition
  have hboundary : startsWord (before.flatMap Segment.masked).getLast? = true :=
    (Option.ite_none_right_eq_some.1 hcall).1
  rw [CallSite.isFree, hlast, Bool.and_eq_true, decide_eq_true_iff, decide_eq_true_iff] at hfree
  refine ⟨before, ⟨⟨argument, after, ?_, hsegments⟩, ?_, ?_, not_inComment hcode, ?_, ?_, ?_⟩⟩
  · simpa using hargument
  · rcases getLast?_text hcode (by decide) with heq | hbracket
    · rwa [heq]
    · rw [hbracket]
      decide
  · intro c hc
    rcases getLast?_text hcode (by decide) with heq | hbracket
    · rw [heq, Option.mem_def] at hc
      rw [hc] at hfree
      simpa using hfree
    · rw [hbracket, Option.mem_some_iff] at hc
      subst hc
      decide
  · rwa [byteLength_flatMap_masked] at hcovered
  · rw [hposition, Position.line_pass]
    rfl
  · rw [hposition, Position.column_pass]

/-- A require is reported at the line and the column of its site. -/
theorem line_column_of_reference? {site : CallSite} {ref : Reference}
    (h : site.reference? = some ref) :
    ref.line = site.position.line ∧ ref.column = site.position.column := by
  obtain ⟨name, -, rfl⟩ := CallSite.reference?_eq_some_iff.1 h
  exact ⟨rfl, rfl⟩

/-- **Every reported literal require is real and correctly located**, and they are reported in
source order. -/
theorem literal_discover_spec (source : String) :
    (∀ ref ∈ (discover source).literal, ∃ before, ref.StandsBehind source before) ∧
      (discover source).literal.Pairwise Reference.IsBefore := by
  refine ⟨fun ref ↦ exists_standsBehind, ?_⟩
  refine ((pairwise_sitesBehind [] (masked source.toList)).filter _).filterMap _ ?_
  intro a b hab ref href other hother
  obtain ⟨hline, hcolumn⟩ := line_column_of_reference? href
  obtain ⟨hline', hcolumn'⟩ := line_column_of_reference? hother
  rwa [Reference.IsBefore, hline, hcolumn, hline', hcolumn']

/-- A require behind a comment and one in the literal of another, which is not reported. -/
def requiresApart : String :=
  "local a = --[==[ ]] ]==]require 'x'\nlocal b = require(--\n\"y\"), \"require('z')\"\n"

/-- What is reported of it stands where it says. -/
theorem standsBehind_requiresApart :
    (discover requiresApart).literal = [⟨"x", 1, 25⟩, ⟨"y", 2, 11⟩] ∧
      (∃ before, Reference.StandsBehind requiresApart before ⟨"y", 2, 11⟩) ∧
        Reference.IsBefore ⟨"x", 1, 25⟩ ⟨"y", 2, 11⟩ := by
  have h : (discover requiresApart).literal = [⟨"x", 1, 25⟩, ⟨"y", 2, 11⟩] := by decide +kernel
  obtain ⟨hstands, hsorted⟩ := literal_discover_spec requiresApart
  rw [h] at hstands hsorted
  exact ⟨h, hstands _ (by simp), List.rel_of_pairwise_cons hsorted (by simp)⟩

end LuaBundler.Source
