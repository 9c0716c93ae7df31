import LuaBundler.Proofs.Source.CallSites

/-!
# Which literal requires are discovered

A literal require of a Lua text is told by the segments of the text: the word `require` in code, and
a short literal without escapes as its argument, with or without parentheses, where blanks and
comments may stand between (`PassesName`).

Masked, such a stretch of text is read as a call of that name (`HasRequire.exists_call`). It is
discovered exactly if no dot or colon stands right before it and no call found earlier takes it in
(`mem_literal_discover_iff`). Neither exception is about what Lua makes of the text: the dots of a
concatenation count as a field access, and a call found earlier may start in a string literal, or be
one in whose argument this one stands (`not_mem_literal_discover`).
-/

namespace LuaBundler.Source

open Text

namespace Segment

/-- What may stand between tokens: blanks and comments. -/
def isGap : Segment → Bool
  | code c => isBlank c
  | comment _ => true
  | literal _ => false

/-- A short literal that holds a name as it is. -/
def Spells (name : List Char) (s : Segment) : Prop :=
  ∃ quote, (quote = '"' ∨ quote = '\'') ∧ (∀ c ∈ name, isNameChar quote c = true) ∧
    s = literal (quote :: name ++ [quote])

end Segment

/-- The segments of an argument that passes a literal name: the literal alone, or in parentheses. -/
inductive PassesName (name : List Char) : List Segment → Prop
  | bare {gap : List Segment} {s : Segment} (hgap : ∀ g ∈ gap, g.isGap = true) (hs : s.Spells name) :
      PassesName name (gap ++ [s])
  | enclosed {gap left right : List Segment} {s : Segment} (hgap : ∀ g ∈ gap, g.isGap = true)
      (hleft : ∀ g ∈ left, g.isGap = true) (hs : s.Spells name) (hright : ∀ g ∈ right, g.isGap = true) :
      PassesName name (gap ++ .code '(' :: (left ++ s :: (right ++ [.code ')'])))

/-- A text has a literal require of a name behind some of its segments: the word `require`, which no
other word runs into, and an argument that passes the name. -/
structure HasRequire (source : String) (before : List Segment) (name : List Char) : Prop where
  boundary : startsWord (lastCode? before) = true
  spelled : ∃ argument after, PassesName name argument ∧
    segments source.toList = before ++ keyword.map .code ++ argument ++ after

/-! ### Reading a call -/

theorem isBlank_of_isGap {gap : List Segment} (h : ∀ g ∈ gap, g.isGap = true) :
    ∀ c ∈ gap.flatMap Segment.masked, isBlank c = true := by
  intro c hc
  obtain ⟨g, hg, hc⟩ := List.mem_flatMap.1 hc
  cases g with
  | code d =>
    obtain rfl := List.mem_singleton.1 hc
    exact h _ hg
  | literal text => exact absurd (h _ hg) (by simp [Segment.isGap])
  | comment text =>
    obtain ⟨d, -, hd⟩ := List.mem_flatMap.1 hc
    unfold blanked at hd
    split at hd
    · rw [List.mem_singleton.1 hd]
      subst_vars
      rfl
    · rw [(List.mem_replicate.1 hd).2]
      rfl

theorem blanks_append {gap rest : List Char} (hgap : ∀ c ∈ gap, isBlank c = true)
    (hrest : ∀ c ∈ rest.head?, isBlank c = false) : blanks (gap ++ rest) = gap.length := by
  have hstop : rest.takeWhile isBlank = [] := by
    cases rest with
    | nil => rfl
    | cons c rest => rw [List.takeWhile_cons_of_neg (by simpa using hrest c rfl)]
  rw [blanks, List.takeWhile_append_of_pos hgap, hstop, List.append_nil]

variable {name rest : List Char}

/-- A literal that spells a name starts with a quote. -/
theorem exists_head?_of_spells {s : Segment} (h : s.Spells name) (rest : List Char) :
    ∃ c, (s.masked ++ rest).head? = some c ∧ isBlank c = false ∧ c ≠ '(' := by
  obtain ⟨quote, hquote, -, rfl⟩ := h
  refine ⟨quote, rfl, ?_⟩
  rcases hquote with rfl | rfl <;> exact ⟨rfl, by decide⟩

/-- A literal that spells a name is read as the name. -/
theorem quotedName?_of_spells {s : Segment} (h : s.Spells name) (rest : List Char) :
    quotedName? (s.masked ++ rest) = some (name, s.masked.length) := by
  obtain ⟨quote, hquote, hname, rfl⟩ := h
  have htake : (name ++ quote :: rest).takeWhile (isNameChar quote) = name := by
    rw [List.takeWhile_append_of_pos hname, List.takeWhile_cons_of_neg (by simp [isNameChar]),
      List.append_nil]
  simp [Segment.masked, Segment.text, quotedName?, htake, hquote]

/-- A literal in parentheses, with blanks around it, is read as the name. -/
theorem enclosedName?_of_spells {left right : List Segment} {s : Segment}
    (hleft : ∀ g ∈ left, g.isGap = true) (hs : s.Spells name) (hright : ∀ g ∈ right, g.isGap = true)
    (rest : List Char) :
    ∃ size, enclosedName? (left.flatMap Segment.masked ++
        (s.masked ++ (right.flatMap Segment.masked ++ ')' :: rest))) = some (name, size) := by
  obtain ⟨l, hl⟩ : ∃ l, l = left.flatMap Segment.masked := ⟨_, rfl⟩
  obtain ⟨r, hr⟩ : ∃ r, r = right.flatMap Segment.masked := ⟨_, rfl⟩
  have hstart : ∀ tail, blanks (l ++ (s.masked ++ tail)) = l.length := by
    intro tail
    obtain ⟨c, hc, hblank, -⟩ := exists_head?_of_spells hs tail
    exact blanks_append (hl ▸ isBlank_of_isGap hleft) (by simp [hc, hblank])
  have hstop : blanks (r ++ ')' :: rest) = r.length :=
    blanks_append (hr ▸ isBlank_of_isGap hright) (by simp; decide)
  have hleft : ∀ tail, (l ++ (s.masked ++ tail)).drop (l.length + s.masked.length) = tail := by
    intro tail
    rw [← List.append_assoc, ← List.length_append, List.drop_left]
  have hright : (l ++ (s.masked ++ (r ++ ')' :: rest))).drop
      (l.length + s.masked.length + r.length) = ')' :: rest := by
    rw [← List.drop_drop, hleft, List.drop_left]
  rw [← hl, ← hr, enclosedName?]
  simp only [hstart, List.drop_left, quotedName?_of_spells hs, hleft, hstop, hright]
  exact ⟨_, rfl⟩

/-- What follows the word `require` and blanks is read as its argument. -/
theorem call?_eq {gap : List Segment} {rest : List Char} (hgap : ∀ g ∈ gap, g.isGap = true)
    (hrest : ∀ c ∈ rest.head?, isBlank c = false) :
    call? (keyword ++ (gap.flatMap Segment.masked ++ rest)) = (argument? rest).map
      fun (a, size) ↦ (a, keyword.length + (gap.flatMap Segment.masked).length + size) := by
  rw [call?, if_pos (by simp)]
  simp only [List.drop_left, blanks_append (isBlank_of_isGap hgap) hrest, ← List.drop_drop]

theorem call?_of_argument? {gap : List Segment} {rest : List Char} {a : Argument} {size : Nat}
    (hgap : ∀ g ∈ gap, g.isGap = true) (hrest : ∀ c ∈ rest.head?, isBlank c = false)
    (h : argument? rest = some (a, size)) :
    ∃ total, call? (keyword ++ (gap.flatMap Segment.masked ++ rest)) = some (a, total) := by
  rw [call?_eq hgap hrest, h]
  exact ⟨_, rfl⟩

/-- **A require of a literal name is read from the masked text as that.** -/
theorem call?_of_passesName {argument : List Segment} (h : PassesName name argument)
    (rest : List Char) :
    ∃ size, call? (keyword ++ (argument.flatMap Segment.masked ++ rest)) =
      some (.name name, size) := by
  cases h with
  | @bare gap s hgap hs =>
    obtain ⟨c, hc, hblank, hopen⟩ := exists_head?_of_spells hs rest
    have hread : argument? (s.masked ++ rest) = some (.name name, s.masked.length) := by
      rw [argument?]
      · rw [quotedName?_of_spells hs]
        rfl
      · rintro tail htail
        rw [htail] at hc
        exact hopen (by simpa using hc.symm)
    rw [List.flatMap_append, List.flatMap_singleton, List.append_assoc]
    exact call?_of_argument? hgap (by simp [hc, hblank]) hread
  | @enclosed gap left right s hgap hleft hs hright =>
    obtain ⟨size, hread⟩ := enclosedName?_of_spells hleft hs hright rest
    have hargument : argument? ('(' :: (left.flatMap Segment.masked ++
        (s.masked ++ (right.flatMap Segment.masked ++ ')' :: rest)))) =
          some (.name name, size + 1) := by
      rw [argument?, hread]
    have hmasked : (gap ++ .code '(' :: (left ++ s :: (right ++ [.code ')']))).flatMap
        Segment.masked ++ rest = gap.flatMap Segment.masked ++ '(' ::
          (left.flatMap Segment.masked ++
            (s.masked ++ (right.flatMap Segment.masked ++ ')' :: rest))) := by
      simp [Segment.masked, Segment.text]
    rw [hmasked]
    exact call?_of_argument? hgap (by simp; decide) hargument

/-! ### What is discovered -/

/-- The place of what follows some segments of a text. -/
def placeAfter (before : List Segment) : Position :=
  Position.start.pass (before.flatMap Segment.text)

/-- The literal require of a name that is reported at a place. -/
def referenceAt (place : Position) (name : List Char) : Reference :=
  ⟨String.ofList name, place.line, place.column⟩

theorem mem_requireSites_iff {cs : List Char} {site : CallSite} :
    site ∈ requireSites cs ↔ site ∈ sites (masked cs) ∧ site.isFree = true ∧
      covered (literals cs) site.position.offset = false := by
  simp [requireSites, List.mem_filter]

/-- A text has no more literal requires than characters. -/
theorem length_literal_discover_le (source : String) :
    (discover source).literal.length ≤ source.toList.length := by
  have hliteral : (discover source).literal.length ≤ (sites (masked source.toList)).length :=
    Nat.le_trans (List.length_filterMap_le ..) (List.length_filter_le ..)
  have hsites := length_sitesBehind_le [] (masked source.toList)
  have hmasked := length_masked_le source.toList
  rw [← sites_eq, show keyword.length = 7 from rfl] at hsites
  omega

variable {source : String} {before rest : List Segment}

/-- A dot, a colon or a word character stands right before code in the masked text exactly if it is
code. -/
theorem getLast?_eq_iff_of_segments {cs : List Char} {d : Char}
    (h : segments cs = before ++ .code d :: rest) (hd : d ≠ '\n') {c : Char}
    (hc : c ∉ [' ', '\n', '"', '\'', ']']) :
    (before.flatMap Segment.masked).getLast? = some c ↔ lastCode? before = some c := by
  rcases getLast?_masked h hd with heq | ⟨hnone, d, hd, hlast⟩
  · rw [heq]
  · rw [hnone, hlast]
    simp only [Option.some.injEq, reduceCtorEq, iff_false]
    rintro rfl
    exact hc hd

/-- A word starts with code in the masked text if it does so in the text. -/
theorem startsWord_of_segments {cs : List Char} {d : Char}
    (h : segments cs = before ++ .code d :: rest) (hd : d ≠ '\n')
    (hboundary : startsWord (lastCode? before) = true) :
    startsWord (before.flatMap Segment.masked).getLast? = true := by
  rw [startsWord, Option.all_eq_true]
  intro c hc
  have hends : ∀ d ∈ [' ', '\n', '"', '\'', ']'], (!isWord d) = true :=
    List.all_eq_true.1 (by decide)
  by_cases hmem : c ∈ [' ', '\n', '"', '\'', ']']
  · exact hends c hmem
  · rw [(getLast?_eq_iff_of_segments h hd hmem).1 hc] at hboundary
    exact hboundary

/-- A site where code starts is at its place in the text, and there it is in no literal. -/
theorem position_siteAt_of_segments {cs : List Char} {d : Char}
    (h : segments cs = before ++ .code d :: rest) (a : Argument) :
    (siteAt (before.flatMap Segment.masked) a).position = placeAfter before ∧
      covered (literals cs) (placeAfter before).offset = false := by
  refine ⟨Position.pass_flatMap_masked .., ?_⟩
  rw [placeAfter, Position.offset_pass, literals, h]
  simpa [Position.start] using not_covered_literalRanges before rest d

/-- A site where code starts is free if no dot or colon stands right before it. -/
theorem isFree_siteAt_iff {cs : List Char} {d : Char} (h : segments cs = before ++ .code d :: rest)
    (hd : d ≠ '\n') (a : Argument) :
    (siteAt (before.flatMap Segment.masked) a).isFree = true ↔
      lastCode? before ≠ some '.' ∧ lastCode? before ≠ some ':' := by
  rw [CallSite.isFree, Bool.and_eq_true, decide_eq_true_iff, decide_eq_true_iff]
  exact and_congr (not_congr (getLast?_eq_iff_of_segments h hd (by decide)))
    (not_congr (getLast?_eq_iff_of_segments h hd (by decide)))

namespace HasRequire

/-- A literal require starts with code. -/
theorem segments_eq (h : HasRequire source before name) :
    ∃ rest, segments source.toList = before ++ .code 'r' :: rest := by
  obtain ⟨argument, after, -, hsegments⟩ := h.spelled
  exact ⟨_, by rw [hsegments, List.append_assoc, List.append_assoc]; rfl⟩

theorem getLast?_eq_iff (h : HasRequire source before name) {c : Char}
    (hc : c ∉ [' ', '\n', '"', '\'', ']']) :
    (before.flatMap Segment.masked).getLast? = some c ↔ lastCode? before = some c := by
  obtain ⟨rest, hsegments⟩ := h.segments_eq
  exact getLast?_eq_iff_of_segments hsegments (by decide) hc

/-- In the masked text a literal require is a call of the name. -/
theorem exists_call (h : HasRequire source before name) :
    ∃ tail size, masked source.toList = before.flatMap Segment.masked ++ tail ∧
      callAfter? (before.flatMap Segment.masked).getLast? tail = some (.name name, size) := by
  obtain ⟨argument, after, hargument, hsegments⟩ := h.spelled
  obtain ⟨size, hcall⟩ := call?_of_passesName hargument (after.flatMap Segment.masked)
  refine ⟨keyword ++ (argument.flatMap Segment.masked ++ after.flatMap Segment.masked), size,
    ?_, ?_⟩
  · rw [masked, hsegments, List.append_assoc, List.append_assoc, List.flatMap_append,
      List.flatMap_append, List.flatMap_append]
    rfl
  · obtain ⟨rest, hcode⟩ := h.segments_eq
    rw [callAfter?, if_pos (startsWord_of_segments hcode (by decide) h.boundary)]
    exact hcall

/-- The site of a literal require is at its place in the text, and there it is in no literal. -/
theorem position_siteAt (h : HasRequire source before name) (a : Argument) :
    (siteAt (before.flatMap Segment.masked) a).position = placeAfter before ∧
      covered (literals source.toList) (placeAfter before).offset = false := by
  obtain ⟨rest, hsegments⟩ := h.segments_eq
  exact position_siteAt_of_segments hsegments a

end HasRequire

/-- **When a literal require is discovered**: exactly if no dot or colon stands right before it and
no call found earlier takes it in. -/
theorem mem_literal_discover_iff (h : HasRequire source before name) :
    referenceAt (placeAfter before) name ∈ (discover source).literal ↔
      lastCode? before ≠ some '.' ∧ lastCode? before ≠ some ':' ∧
        ¬ Overrun (masked source.toList) (before.flatMap Segment.masked) := by
  obtain ⟨tail, size, hmasked, hcall⟩ := h.exists_call
  have hfree : ∀ a, (siteAt (before.flatMap Segment.masked) a).isFree = true ↔
      lastCode? before ≠ some '.' ∧ lastCode? before ≠ some ':' := by
    intro a
    rw [CallSite.isFree, Bool.and_eq_true, decide_eq_true_iff, decide_eq_true_iff]
    exact and_congr (not_congr (h.getLast?_eq_iff (by decide)))
      (not_congr (h.getLast?_eq_iff (by decide)))
  rw [← and_assoc, ← mem_sites_iff hmasked hcall, ← hfree (.name name)]
  constructor
  · intro hmem
    obtain ⟨site, hsite, href⟩ := List.mem_filterMap.1 hmem
    obtain ⟨hfound, hsitefree, -⟩ := mem_requireSites_iff.1 hsite
    -- the site that is reported is that of the require: its line and column say so
    obtain ⟨done, rest, size', hsplit, heq, hcall'⟩ := exists_of_mem_sites hfound
    unfold CallSite.reference? at href
    split at href
    · rename_i text htext
      simp only [referenceAt, Option.some.injEq, Reference.mk.injEq] at href
      obtain ⟨-, hline, hcolumn⟩ := href
      have hplace : placeAfter before = Position.start.pass (before.flatMap Segment.masked) :=
        (Position.pass_flatMap_masked ..).symm
      rw [heq, hplace] at hline hcolumn
      obtain rfl := eq_of_line_column (hsplit.symm.trans hmasked) hline hcolumn
      obtain rfl := List.append_cancel_left (hsplit.symm.trans hmasked)
      rw [hcall, Option.some.injEq, Prod.mk.injEq] at hcall'
      rw [hcall'.1, ← heq]
      exact ⟨hsitefree, hfound⟩
    · simp at href
  · rintro ⟨hsitefree, hfound⟩
    obtain ⟨hposition, hcovered⟩ := h.position_siteAt (.name name)
    refine List.mem_filterMap.2 ⟨_, mem_requireSites_iff.2 ⟨hfound, hsitefree, ?_⟩, ?_⟩
    · rw [hposition, hcovered]
    · rw [← hposition]
      rfl

/-! ### At fixed texts -/

/-- A literal between double quotes in parentheses passes its name. -/
theorem passesName_of_parenthesized (h : ∀ c ∈ name, isNameChar '"' c = true) :
    PassesName name [.code '(', .literal ('"' :: name ++ ['"']), .code ')'] :=
  @PassesName.enclosed name [] [] [] _ (by simp) (by simp) ⟨'"', .inl rfl, h, rfl⟩ (by simp)

/-- A require behind a literal that holds one, with comments before its parenthesis and in it. -/
def requireBehindLiteral : String :=
  "f('require(x)', require --[[ ' ]] ( --(\n \"net.http\"))"

/-- It is discovered: neither the literal nor the comments take it in. -/
theorem mem_literal_discover_behind_literal :
    ∃ before, HasRequire requireBehindLiteral before "net.http".toList ∧
      referenceAt (placeAfter before) "net.http".toList ∈
        (discover requireBehindLiteral).literal ∧
      ¬ Overrun (masked requireBehindLiteral.toList) (before.flatMap Segment.masked) := by
  have hname : ∀ c ∈ "net.http".toList, isNameChar '"' c = true :=
    List.all_eq_true.1 (by decide)
  have hargument : PassesName "net.http".toList
      ([.code ' ', .comment "--[[ ' ]]".toList, .code ' '] ++ .code '(' ::
        ([.code ' ', .comment "--(".toList, .code '\n', .code ' '] ++
          .literal ('"' :: "net.http".toList ++ ['"']) :: ([] ++ [.code ')']))) :=
    .enclosed (by decide) (by decide) ⟨'"', .inl rfl, hname, rfl⟩ (by simp)
  have h : HasRequire requireBehindLiteral
      ("f(".toList.map .code ++ [.literal "'require(x)'".toList, .code ',', .code ' '])
      "net.http".toList :=
    ⟨by decide, _, [.code ')'], hargument, by decide +kernel⟩
  have hmem : (discover requireBehindLiteral).literal = [⟨"net.http", 1, 17⟩] := by decide +kernel
  have hplace : referenceAt (placeAfter ("f(".toList.map .code ++
      [.literal "'require(x)'".toList, .code ',', .code ' '])) "net.http".toList =
        ⟨"net.http", 1, 17⟩ := by decide
  have hfound := List.mem_singleton.2 hplace
  rw [← hmem] at hfound
  exact ⟨_, h, hfound, ((mem_literal_discover_iff h).1 hfound).2.2⟩

/-- Whether the last token before a place is that of a field or method access: a dot or a colon, and
not two of them. -/
def followsAccess (before : List Segment) : Bool :=
  match before.reverse.dropWhile Segment.isGap with
  | .code c :: rest => (c = '.' || c = ':') && rest.head? ≠ some (.code c)
  | _ => false

/-- A require behind the dots of a concatenation, and one behind a literal in which a call starts that
takes it in. -/
def missedRequires : String :=
  "return \"x\"..require(\"a\")\nprint(\"require(\", require(\"b\"))\n"

/-- **Not every literal require is discovered.** -/
theorem not_mem_literal_discover :
    (∃ before, HasRequire missedRequires before ['a'] ∧ followsAccess before = false) ∧
    (∃ before, HasRequire missedRequires before ['b'] ∧ followsAccess before = false) ∧
    discover missedRequires = ⟨[], []⟩ := by
  have hsegments : segments missedRequires.toList =
      "return ".toList.map .code ++ [.literal "\"x\"".toList, .code '.', .code '.'] ++
        keyword.map .code ++ [.code '(', .literal ['"', 'a', '"'], .code ')'] ++
        (.code '\n' :: "print(".toList.map .code ++
          [.literal "\"require(\"".toList, .code ',', .code ' '] ++ keyword.map .code ++
          [.code '(', .literal ['"', 'b', '"'], .code ')'] ++ [.code ')', .code '\n']) := by
    decide +kernel
  have hregrouped := hsegments
  simp only [← List.append_assoc] at hregrouped
  have ha : ∃ before, HasRequire missedRequires before ['a'] ∧ followsAccess before = false :=
    ⟨_, ⟨by decide, _, _, passesName_of_parenthesized (List.all_eq_true.1 (by decide)), hsegments⟩,
      by decide⟩
  have hb : ∃ before, HasRequire missedRequires before ['b'] ∧ followsAccess before = false :=
    ⟨_, ⟨by decide, _, _, passesName_of_parenthesized (List.all_eq_true.1 (by decide)), hregrouped⟩,
      by decide⟩
  exact ⟨ha, hb, by decide +kernel⟩

end LuaBundler.Source
