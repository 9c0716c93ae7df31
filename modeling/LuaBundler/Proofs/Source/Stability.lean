import LuaBundler.Proofs.Source.Scanning
import LuaBundler.Proofs.Text.Utf8
import LuaBundler.Source.Require

/-!
# Masked text is scanned like its source

Blanking a comment neither makes nor breaks a token next to it: what stands behind a comment starts
with the same character as before, and a comment is blank where it started with a dash
(`head?_masked`). So code stays code and a literal stays that literal, and each segment of a masked
text is a segment of the text or a blank of a comment (`segments_masked`).

Masking once more changes nothing then, and finds the same literals. On bytes this is `masks_scan`:
the scan stays within its input, what it masks is a text as long as the source and with the line feeds
of the source, it differs from the source within comments alone, and scanning it again comes to the
same.
-/

namespace LuaBundler.Source

open Text

variable {cs rest : List Char}

/-! ### How a segment starts -/

namespace Segment

/-- What starts no comment, and no literal, is code. -/
theorem next?_eq_code_iff {c d : Char} :
    next? (c :: cs) = some (.code d, rest) ↔
      d = c ∧ rest = cs ∧ ¬ (c = '-' ∧ cs.head? = some '-') ∧ c ≠ '"' ∧ c ≠ '\'' ∧
        bracketLevel? (c :: cs) = none := by
  rw [next?_eq_some_iff]
  constructor
  · intro h
    cases h with
    | code hdashes hquote hlevel =>
      obtain ⟨hdouble, hsingle⟩ := not_or.1 hquote
      exact ⟨rfl, rfl, hdashes, hdouble, hsingle, hlevel⟩
  · rintro ⟨rfl, rfl, hdashes, hdouble, hsingle, hlevel⟩
    exact .code hdashes (not_or.2 ⟨hdouble, hsingle⟩) hlevel

/-- A comment starts with a dash. -/
theorem head?_of_next?_comment {text : List Char} (h : next? cs = some (.comment text, rest)) :
    cs.head? = some '-' ∧ ∃ tail, text = '-' :: tail := by
  cases next?_eq_some_iff.1 h with
  | longComment => exact ⟨rfl, _, rfl⟩
  | lineComment => exact ⟨rfl, _, rfl⟩

end Segment

/-- A character that starts no comment and no literal. -/
def IsPlain (c : Char) : Prop :=
  c ∉ ['-', '"', '\'', '[']

theorem Segment.next?_of_isPlain {c : Char} (h : IsPlain c) (cs : List Char) :
    next? (c :: cs) = some (.code c, cs) := by
  simp only [IsPlain, List.mem_cons, List.not_mem_nil, or_false, not_or] at h
  have hlevel : bracketLevel? (c :: cs) = none := by
    unfold bracketLevel?
    split
    · rename_i heq
      exact absurd (List.cons.inj heq).1 h.2.2.2
    · rfl
  exact next?_eq_code_iff.2 ⟨rfl, rfl, fun hdash ↦ h.1 hdash.1, h.2.1, h.2.2.1, hlevel⟩

/-- Plain characters are segments of code. -/
theorem segments_append_of_isPlain {plain : List Char} (h : ∀ c ∈ plain, IsPlain c)
    (rest : List Char) : segments (plain ++ rest) = plain.map .code ++ segments rest := by
  induction plain with
  | nil => rfl
  | cons c plain ih =>
    rw [List.cons_append, segments_of_next? (Segment.next?_of_isPlain (h c (List.mem_cons_self ..)) _),
      ih fun d hd ↦ h d (List.mem_cons_of_mem _ hd), List.map_cons, List.cons_append]

/-! ### What stands behind a comment -/

/-- Masked text starts as the text does, unless that starts with a comment. -/
theorem head?_masked (cs : List Char) :
    (masked cs).head? = cs.head? ∨ (cs.head? = some '-' ∧ (masked cs).head? = some ' ') := by
  cases hnext : Segment.next? cs with
  | none =>
    obtain rfl := Segment.next?_eq_none_iff.1 hnext
    exact .inl (by rw [masked_nil])
  | some next =>
    obtain ⟨s, rest⟩ := next
    have hcs := Segment.append_next? hnext
    have hne := Segment.text_ne_nil hnext
    rw [masked_of_next? hnext]
    cases s with
    | code c => exact .inl (by rw [← hcs]; rfl)
    | literal text =>
      left
      rw [← hcs, List.head?_append_of_ne_nil _ hne]
      exact List.head?_append_of_ne_nil _ hne
    | comment text =>
      obtain ⟨hdash, tail, rfl⟩ := Segment.head?_of_next?_comment hnext
      exact .inr ⟨hdash, rfl⟩

/-- Masked text starts with a character that is neither a dash nor a blank exactly if the text
does. -/
theorem head?_masked_eq_iff {c : Char} (hdash : c ≠ '-') (hblank : c ≠ ' ') :
    (masked cs).head? = some c ↔ cs.head? = some c := by
  rcases head?_masked cs with heq | ⟨htext, hmasked⟩
  · rw [heq]
  · rw [htext, hmasked]
    simp only [Option.some.injEq]
    exact ⟨fun h ↦ absurd h.symm hblank, fun h ↦ absurd h.symm hdash⟩

/-- Masking makes no bracket behind equals signs. -/
theorem head?_dropWhile_masked (cs : List Char) :
    ((masked cs).dropWhile (· = '=')).head? = some '[' ↔
      (cs.dropWhile (· = '=')).head? = some '[' := by
  induction cs with
  | nil => rw [masked_nil]
  | cons c cs ih =>
    by_cases hc : c = '='
    · subst hc
      rw [masked_of_next? (Segment.next?_of_isPlain (by simp [IsPlain]) cs)]
      exact ih
    · have hstop : ∀ ds : List Char, ds.head? ≠ some '=' → ds.dropWhile (· = '=') = ds := by
        intro ds hds
        cases ds with
        | nil => rfl
        | cons d ds => exact List.dropWhile_cons_of_neg (by simpa using hds)
      have hhead : (masked (c :: cs)).head? ≠ some '=' := by
        rw [Ne, head?_masked_eq_iff (by decide) (by decide)]
        simpa using hc
      rw [hstop _ hhead, hstop _ (by simpa using hc), head?_masked_eq_iff (by decide) (by decide)]

theorem bracketLevel?_eq_none_iff :
    bracketLevel? ('[' :: cs) = none ↔ (cs.dropWhile (· = '=')).head? ≠ some '[' := by
  rw [bracketLevel?]
  cases hdrop : cs.dropWhile (· = '=') with
  | nil => simp
  | cons d ds => by_cases hd : d = '[' <;> simp [hd]

/-! ### Segments that stay -/

/-- Code stays code if what follows is masked. -/
theorem Segment.next?_code_masked {c : Char} (h : next? (c :: cs) = some (.code c, cs)) :
    next? (c :: Source.masked cs) = some (.code c, Source.masked cs) := by
  obtain ⟨-, -, hdashes, hdouble, hsingle, hlevel⟩ := next?_eq_code_iff.1 h
  refine next?_eq_code_iff.2 ⟨rfl, rfl, ?_, hdouble, hsingle, ?_⟩
  · rintro ⟨hdash, hhead⟩
    rcases head?_masked cs with heq | ⟨-, hblank⟩
    · exact hdashes ⟨hdash, heq.symm.trans hhead⟩
    · simp [hhead] at hblank
  · by_cases hc : c = '['
    · subst hc
      rw [bracketLevel?_eq_none_iff] at hlevel ⊢
      rwa [Ne, head?_dropWhile_masked]
    · unfold bracketLevel?
      split
      · rename_i heq
        exact absurd (List.cons.inj heq).1 hc
      · rfl

/-- A short literal ends where it does also if something else follows, unless the text ended it. -/
theorem splitQuoted_append {quote : Char} (hquote : quote = '"' ∨ quote = '\'') {ds : List Char}
    (hnil : (splitQuoted quote cs).2 = [] → ds = [])
    (hline : (splitQuoted quote cs).2.head? = some '\n' → ds.head? = some '\n') :
    splitQuoted quote ((splitQuoted quote cs).1 ++ ds) = ((splitQuoted quote cs).1, ds) := by
  fun_induction splitQuoted quote cs with
  | case1 =>
    obtain rfl := hnil rfl
    rfl
  | case2 c cs ih => rw [List.cons_append, List.cons_append, splitQuoted, ih hnil hline]
  | case3 cs =>
    obtain ⟨tail, rfl⟩ := List.head?_eq_some_iff.1 (hline rfl)
    rfl
  | case4 cs => rcases hquote with rfl | rfl <;> rfl
  | case5 c cs hpair hfeed hend ih =>
    have hstep : splitQuoted quote (c :: ((splitQuoted quote cs).1 ++ ds)) =
        (c :: (splitQuoted quote ((splitQuoted quote cs).1 ++ ds)).1,
          (splitQuoted quote ((splitQuoted quote cs).1 ++ ds)).2) := by
      rw [splitQuoted, if_neg hfeed, if_neg hend]
      rintro d tail rfl htail
      -- a backslash that is no escape ends the text
      obtain rfl : cs = [] := by
        cases cs with
        | nil => rfl
        | cons d ds => exact absurd rfl (hpair d ds rfl)
      rw [hnil rfl] at htail
      simp [splitQuoted] at htail
    rw [List.cons_append, hstep, ih hnil hline]

/-- A text is cut where it was also if something else follows, unless the text ended there. -/
theorem splitThrough_append {close : List Char} (hclose : close ≠ []) {ds : List Char}
    (hnil : (splitThrough close cs).2 = [] → ds = []) :
    splitThrough close ((splitThrough close cs).1 ++ ds) = ((splitThrough close cs).1, ds) := by
  induction cs with
  | nil =>
    obtain rfl := hnil rfl
    rfl
  | cons c cs ih =>
    by_cases hhere : close.isPrefixOf (c :: cs) = true
    · have htake : (c :: cs).take close.length = close :=
        (List.prefix_iff_eq_take.1 (List.isPrefixOf_iff_prefix.1 hhere)).symm
      obtain ⟨b, close, rfl⟩ := List.exists_cons_of_ne_nil hclose
      have hagain : (b :: close).isPrefixOf (b :: (close ++ ds)) = true :=
        List.isPrefixOf_iff_prefix.2 (List.prefix_append (b :: close) ds)
      rw [splitThrough, if_pos hhere, htake, List.cons_append, splitThrough, if_pos hagain,
        ← List.cons_append, List.take_left, List.drop_left]
    · rw [splitThrough, if_neg hhere] at hnil ⊢
      have hthere : ¬ close.isPrefixOf (c :: ((splitThrough close cs).1 ++ ds)) = true := by
        intro hprefix
        rw [List.isPrefixOf_iff_prefix] at hhere hprefix
        have hcs := Segment.append_splitThrough close cs
        cases hrest : (splitThrough close cs).2 with
        | nil =>
          rw [hrest, List.append_nil] at hcs
          rw [hnil hrest, List.append_nil, hcs] at hprefix
          exact hhere hprefix
        | cons d tail =>
          -- the delimiter ends the part before, so it has no room to start at `c`
          have hlength := (suffix_splitThrough hrest).length_le
          have hpart : close <+: c :: (splitThrough close cs).1 :=
            List.prefix_of_prefix_length_le hprefix (List.prefix_append (c :: _) ds)
              (Nat.le_succ_of_le hlength)
          exact hhere (hpart.trans ⟨_, by rw [List.cons_append, hcs]⟩)
      rw [List.cons_append, splitThrough, if_neg hthere, ih hnil]

/-- A long bracket that opens and ends here does so also if something else follows. -/
theorem splitBracket_append {level : Nat} (h : bracketLevel? cs = some level) {ds : List Char}
    (hnil : (splitBracket level cs).2 = [] → ds = []) :
    bracketLevel? ((splitBracket level cs).1 ++ ds) = some level ∧
      splitBracket level ((splitBracket level cs).1 ++ ds) = ((splitBracket level cs).1, ds) := by
  obtain ⟨tail, rfl⟩ := eq_of_bracketLevel? h
  rw [splitBracket_openBracket] at hnil ⊢
  rw [List.append_assoc, splitBracket_openBracket,
    splitThrough_append (by simp [closeBracket]) hnil]
  exact ⟨bracketLevel?_openBracket .., rfl⟩

/-- A literal stays that literal if what follows is masked. -/
theorem Segment.next?_literal_masked {text : List Char} (h : next? cs = some (.literal text, rest)) :
    next? (text ++ Source.masked rest) = some (.literal text, Source.masked rest) := by
  cases next?_eq_some_iff.1 h with
  | @quoted quote tail hquote =>
    have hsplit : splitQuoted quote ((splitQuoted quote tail).1 ++
        Source.masked (splitQuoted quote tail).2) = (_, _) := splitQuoted_append hquote
      (fun hnil ↦ by rw [hnil, masked_nil])
      (fun hline ↦ (head?_masked_eq_iff (by decide) (by decide)).2 hline)
    have hfirst : IsFirst (quote :: ((splitQuoted quote tail).1 ++
        Source.masked (splitQuoted quote tail).2)) _ _ := .quoted hquote
    rw [hsplit] at hfirst
    exact next?_eq_some_iff.2 hfirst
  | @bracket cs level hlevel =>
    have hnil : (splitBracket level cs).2 = [] → Source.masked (splitBracket level cs).2 = [] :=
      fun hnil ↦ by rw [hnil, masked_nil]
    obtain ⟨hopens, hsplit⟩ := splitBracket_append hlevel hnil
    have hfirst := IsFirst.bracket hopens
    rw [hsplit] at hfirst
    exact next?_eq_some_iff.2 hfirst

/-! ### The segments of a masked text -/

/-- What masking leaves of a segment: a comment becomes blanks, which are code. -/
def Segment.bare : Segment → List Segment
  | comment text => (text.flatMap blanked).map code
  | s => [s]

theorem isPlain_of_mem_blanked {text : List Char} : ∀ c ∈ text.flatMap blanked, IsPlain c := by
  intro c hc
  obtain ⟨d, -, hd⟩ := List.mem_flatMap.1 hc
  unfold blanked at hd
  split at hd
  · rename_i hline
    rw [List.mem_singleton.1 hd, hline]
    simp [IsPlain]
  · rw [(List.mem_replicate.1 hd).2]
    simp [IsPlain]

/-- **The segments of a masked text** are those of the text, without its comments. -/
theorem segments_masked (cs : List Char) :
    segments (masked cs) = (segments cs).flatMap Segment.bare := by
  fun_induction segments cs with
  | case1 cs hnone =>
    obtain rfl := Segment.next?_eq_none_iff.1 hnone
    rw [masked_nil, segments_nil]
    rfl
  | case2 cs s rest hnext _ ih =>
    rw [masked_of_next? hnext, List.flatMap_cons]
    cases s with
    | code c =>
      obtain rfl : c :: rest = cs := Segment.append_next? hnext
      rw [← ih]
      exact segments_of_next? (Segment.next?_code_masked hnext)
    | literal text =>
      rw [← ih]
      exact segments_of_next? (Segment.next?_literal_masked hnext)
    | comment text =>
      rw [Segment.masked, segments_append_of_isPlain isPlain_of_mem_blanked, ih, Segment.bare]

/-- Segments of code come to their characters. -/
theorem flatMap_map_code {f : Segment → List Char} (hf : ∀ c, f (.code c) = [c]) (cs : List Char) :
    (cs.map .code).flatMap f = cs := by
  rw [List.flatMap_map, funext hf, List.flatMap_singleton']

theorem flatMap_masked_bare (s : Segment) : s.bare.flatMap Segment.masked = s.masked := by
  cases s with
  | code c => rfl
  | literal text => exact List.flatMap_singleton ..
  | comment text => exact flatMap_map_code (fun _ ↦ rfl) _

/-- **Masking a masked text changes nothing.** -/
theorem masked_masked (cs : List Char) : masked (masked cs) = masked cs := by
  rw [masked, segments_masked, List.flatMap_assoc, funext flatMap_masked_bare]
  rfl

/-- Code holds no literal. -/
theorem literalRanges_map_code (offset : Nat) (code : List Char) :
    literalRanges offset (code.map .code) = [] := by
  induction code generalizing offset with
  | nil => rfl
  | cons c code ih => exact ih _

/-- Making comments blank keeps the ranges of the literals. -/
theorem literalRanges_flatMap_bare (offset : Nat) (ss : List Segment) :
    literalRanges offset (ss.flatMap Segment.bare) = literalRanges offset ss := by
  induction ss generalizing offset with
  | nil => rfl
  | cons s ss ih =>
    rw [List.flatMap_cons, literalRanges_append, ih]
    cases s with
    | code c => simp [Segment.bare, literalRanges, Segment.text]
    | literal text => simp [Segment.bare, literalRanges, Segment.text]
    | comment text =>
      rw [Segment.bare, literalRanges_map_code, flatMap_map_code fun _ ↦ rfl,
        byteLength_flatMap_blanked, List.nil_append]
      rfl

/-- A masked text has the literals of the text. -/
theorem literals_masked (cs : List Char) : literals (masked cs) = literals cs := by
  rw [literals, segments_masked, literalRanges_flatMap_bare]
  rfl

/-- **A masked text has the requires of the text**, with their places. -/
theorem discover_masked (source : String) :
    discover (String.ofList (masked source.toList)) = discover source := by
  simp only [discover, requireSites, String.toList_ofList, masked_masked, literals_masked]

/-! ### The bytes of a masked text -/

/-- An offset of a text that lies in one of its comments. -/
def InComment (cs : List Char) (i : Nat) : Prop :=
  ∃ before text after, segments cs = before ++ .comment text :: after ∧
    byteLength (before.flatMap Segment.text) ≤ i ∧
      i < byteLength (before.flatMap Segment.text) + byteLength text

/-- Masked segments have the line feeds of the segments, at their offsets. -/
theorem map_lineFeed_masked (ss : List Segment) :
    (encode (ss.flatMap Segment.masked)).map (decide <| · = '\n'.toUInt8) =
      (encode (ss.flatMap Segment.text)).map (decide <| · = '\n'.toUInt8) := by
  induction ss with
  | nil => rfl
  | cons s ss ih =>
    have hs : (encode s.masked).map (decide <| · = '\n'.toUInt8) =
        (encode s.text).map (decide <| · = '\n'.toUInt8) := by
      cases s with
      | code c => rfl
      | literal text => rfl
      | comment text =>
        rw [Segment.masked, ← map_blankedByte, List.map_map]
        refine List.map_congr_left fun b _ ↦ ?_
        rw [Function.comp_apply, blankedByte]
        split
        · rfl
        · rename_i hb
          rw [decide_eq_false hb]
          decide
    rw [List.flatMap_cons, List.flatMap_cons, encode_append, encode_append, List.map_append,
      List.map_append, hs, ih]

/-- **A byte that masking changes is one of a comment.** -/
theorem exists_comment_of_getElem?_ne {ss : List Segment} {i : Nat}
    (h : (encode (ss.flatMap Segment.masked))[i]? ≠ (encode (ss.flatMap Segment.text))[i]?) :
    ∃ before text after, ss = before ++ .comment text :: after ∧
      byteLength (before.flatMap Segment.text) ≤ i ∧
        i < byteLength (before.flatMap Segment.text) + byteLength text := by
  induction ss generalizing i with
  | nil => exact absurd rfl h
  | cons s ss ih =>
    rw [List.flatMap_cons, List.flatMap_cons, encode_append, encode_append] at h
    have hlength : (encode s.masked).length = (encode s.text).length := by
      rw [length_encode, length_encode, byteLength_masked]
    by_cases hi : i < (encode s.text).length
    · rw [List.getElem?_append_left (hlength ▸ hi), List.getElem?_append_left hi] at h
      cases s with
      | code c => exact absurd rfl h
      | literal text => exact absurd rfl h
      | comment text =>
        refine ⟨[], text, ss, rfl, Nat.zero_le _, ?_⟩
        rw [length_encode] at hi
        exact Nat.lt_of_lt_of_le hi (Nat.le_add_left ..)
    · have hle := Nat.not_lt.1 hi
      rw [List.getElem?_append_right (hlength ▸ hle), List.getElem?_append_right hle, hlength] at h
      obtain ⟨before, text, after, rfl, hstart, hstop⟩ := ih h
      refine ⟨s :: before, text, after, rfl, ?_⟩
      rw [length_encode] at hle hstart hstop
      rw [List.flatMap_cons, byteLength_append]
      omega

/-- The lines of a text start where its line feeds say. -/
theorem lineOffsets_eq (bytes : Bytes) :
    lineOffsets bytes =
      0 :: (((bytes.map (decide <| · = '\n'.toUInt8)).zipIdx.filter Prod.fst).map (·.2 + 1)) := by
  rw [List.zipIdx_map, List.filter_map, List.map_map]
  rfl

/-- The lines of a masked text start where those of the text do. -/
theorem lineOffsets_masked (cs : List Char) :
    lineOffsets (encode (masked cs)) = lineOffsets (encode cs) := by
  have hmap := map_lineFeed_masked (segments cs)
  rw [flatMap_text_segments] at hmap
  rw [lineOffsets_eq, lineOffsets_eq, masked, hmap]

/-! ### The ranges of the literals -/

/-- No segment of a text is empty. -/
theorem text_ne_nil_of_mem_segments {s : Segment} (h : s ∈ segments cs) : s.text ≠ [] := by
  fun_induction segments cs with
  | case1 => exact absurd h List.not_mem_nil
  | case2 cs first rest hnext _ ih =>
    rcases List.mem_cons.1 h with rfl | h
    · exact Segment.text_ne_nil hnext
    · exact ih h

theorem lt_of_mem_literalRanges {offset : Nat} {ss : List Segment} {r : Nat × Nat}
    (hss : ∀ s ∈ ss, s.text ≠ []) (h : r ∈ literalRanges offset ss) : r.1 < r.2 := by
  induction ss generalizing offset with
  | nil => exact absurd h List.not_mem_nil
  | cons s ss ih =>
    have hrest := fun offset ↦ @ih offset fun t ht ↦ hss t (List.mem_cons_of_mem _ ht)
    cases s with
    | code c => exact hrest _ h
    | comment text => exact hrest _ h
    | literal text =>
      rcases List.mem_cons.1 h with rfl | h
      · exact Nat.lt_add_of_pos_right (byteLength_pos (hss _ (List.mem_cons_self ..)))
      · exact hrest _ h

/-- Each literal ends before the next one starts. -/
theorem pairwise_literalRanges (offset : Nat) (ss : List Segment) :
    (literalRanges offset ss).Pairwise fun a b ↦ a.2 ≤ b.1 := by
  induction ss generalizing offset with
  | nil => exact .nil
  | cons s ss ih =>
    cases s with
    | code c => exact ih _
    | comment text => exact ih _
    | literal text => exact .cons (fun r hr ↦ (bounds_of_mem_literalRanges hr).1) (ih _)

/-! ### Scanning a masked text -/

/-- What a scan of a text comes to. -/
structure Scan.Masks (source text : String) (s : Scan) : Prop where
  /-- The masked bytes are well formed. -/
  valid : string? s.masked = some text
  text_eq : text.toList = Source.masked source.toList
  length_eq : s.masked.length = (encodeString source).length
  lineFeed_iff : ∀ i : Nat, s.masked[i]? = some '\n'.toUInt8 ↔
    (encodeString source)[i]? = some '\n'.toUInt8
  comment_of_ne : ∀ i : Nat, s.masked[i]? ≠ (encodeString source)[i]? → InComment source.toList i
  strings_eq : s.strings = literals source.toList
  bounds : ∀ r ∈ s.strings, r.1 < r.2 ∧ r.2 ≤ (encodeString source).length
  disjoint : s.strings.Pairwise fun a b ↦ a.2 ≤ b.1
  lines_eq : s.lines = lineOffsets (encodeString source)

/-- What is scanned is the text masked. -/
theorem masks_scan (source : String) :
    Scan.Masks source (String.ofList (masked source.toList))
      ⟨encode (masked source.toList), literals source.toList, lineOffsets (encodeString source)⟩ where
  valid := by
    have h := string?_encodeString (String.ofList (masked source.toList))
    rwa [encodeString, String.toList_ofList] at h
  text_eq := String.toList_ofList
  length_eq := by
    have h := congrArg List.length (map_lineFeed_masked (segments source.toList))
    rwa [List.length_map, List.length_map, flatMap_text_segments] at h
  lineFeed_iff i := by
    have hfeed : ∀ bs : Bytes, bs[i]? = some '\n'.toUInt8 ↔
        (bs.map (decide <| · = '\n'.toUInt8))[i]? = some true := by
      intro bs
      rw [List.getElem?_map, Option.map_eq_some_iff]
      simp
    have h := map_lineFeed_masked (segments source.toList)
    rw [flatMap_text_segments] at h
    rw [hfeed, hfeed, encodeString, ← h, masked]
  comment_of_ne i h := by
    have hdiffers : (encode ((segments source.toList).flatMap Segment.masked))[i]? ≠
        (encode ((segments source.toList).flatMap Segment.text))[i]? := by
      rwa [flatMap_text_segments]
    exact exists_comment_of_getElem?_ne hdiffers
  strings_eq := rfl
  bounds r hr := by
    have hstop := (bounds_of_mem_literalRanges hr).2
    rw [flatMap_text_segments, Nat.zero_add, ← length_encode] at hstop
    exact ⟨lt_of_mem_literalRanges (fun s ↦ text_ne_nil_of_mem_segments) hr, hstop⟩
  disjoint := pairwise_literalRanges ..
  lines_eq := rfl

/-- **Masking is transparent and stable**: scanning a text never fails and comes to what it has to,
and scanning what it masked comes to the same once more. So the masked text has the requires of the
source. -/
theorem scan?_stable (source : String) :
    ∃ s text, scan? (encodeString source) = some s ∧ s.Masks source text ∧
      scan? s.masked = some s ∧ discover text = discover source := by
  refine ⟨_, _, scan?_encode source.toList, masks_scan source, ?_, discover_masked source⟩
  rw [scan?_encode, masked_masked, literals_masked, lineOffsets_masked]

end LuaBundler.Source
