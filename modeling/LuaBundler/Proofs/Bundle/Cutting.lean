import LuaBundler.Proofs.Bundle.TextStripping

/-!
# Cutting a text into blocks

A bundle text is cut before each line that opens a block (`cut`). What comes before the first such
line is kept apart; every block opens with its first line and with no later one, and each but the last
ends in a line feed (`IsCut`).

As markers hold no line feed, a block opens whatever follows it, and nothing that follows makes another
line open. So a text put together from some of the blocks is cut into just these again
(`IsCut.cut_eq`, `IsCut.sublist`): leaving blocks out reveals none.

Stripping a text leaves out whole blocks, those at which a name is found first, and keeps all other
text (`toList_of_stripText`).
-/

namespace LuaBundler.Bundle

open Text

/-! ### Cutting -/

/-- A text cut before each line that opens a block: what comes before the first one, and the blocks. -/
def cut (atStart : Bool) : List Char → List Char × List (List Char)
  | [] => ([], [])
  | c :: cs =>
    let later := cut (c = '\n') cs
    if atStart && opensBlock (c :: cs) then ([], (c :: later.1) :: later.2)
    else (c :: later.1, later.2)

/-- A text that is one block: its first line opens one, and no later line does. -/
def IsBlock (b : List Char) : Prop :=
  cut true b = ([], [b])

/-- How a text is cut: no line of the header opens a block, and all parts but the last end with a
line. -/
structure IsCut (atStart : Bool) (header : List Char) (parts : List (List Char)) : Prop where
  quiet : cut atStart header = (header, [])
  header_ended : parts ≠ [] → (header = [] ∧ atStart = true) ∨ header.getLast? = some '\n'
  isBlock : ∀ b ∈ parts, IsBlock b
  ended : parts.Pairwise fun b _ ↦ b.getLast? = some '\n'

variable {atStart : Bool} {cs header : List Char} {parts kept : List (List Char)}

/-- Nothing is lost. -/
theorem append_cut (atStart : Bool) (cs : List Char) :
    (cut atStart cs).1 ++ (cut atStart cs).2.flatten = cs := by
  induction cs generalizing atStart with
  | nil => rfl
  | cons c cs ih =>
    rw [cut]
    split <;> simp [ih]

/-- What follows a line does not matter to whether it opens a block. -/
theorem opensBlock_append_of_mem {l : List Char} (h : '\n' ∈ l) (rest : List Char) :
    opensBlock (l ++ rest) = opensBlock l := by
  obtain ⟨first, later, rfl⟩ := List.append_of_mem h
  rw [List.append_assoc, List.cons_append, opensBlock_append, opensBlock_append]

/-- A line that opens a block also does if more follows. -/
theorem opensBlock_append_of_opensBlock {l : List Char} (h : opensBlock l = true)
    (rest : List Char) : opensBlock (l ++ rest) = true := by
  simp only [opensBlock, Bool.or_eq_true, List.isPrefixOf_iff_prefix] at h ⊢
  exact h.imp (·.trans (List.prefix_append ..)) (·.trans (List.prefix_append ..))

theorem getLast?_cons_eq_iff {c : Char} : (c :: header).getLast? = some '\n' ↔
    (header = [] ∧ decide (c = '\n') = true) ∨ header.getLast? = some '\n' := by
  rcases header.eq_nil_or_concat with rfl | ⟨init, d, rfl⟩ <;> simp [List.getLast?_cons]

/-- A text without a line that opens a block is passed over, if it ends with a line. -/
theorem cut_append (hquiet : cut atStart header = (header, []))
    (hend : (header = [] ∧ atStart = true) ∨ header.getLast? = some '\n') (rest : List Char) :
    cut atStart (header ++ rest) = (header ++ (cut true rest).1, (cut true rest).2) := by
  induction header generalizing atStart with
  | nil =>
    rcases hend with ⟨-, rfl⟩ | hlast
    · rfl
    · simp at hlast
  | cons c header ih =>
    have hline : (c :: header).getLast? = some '\n' := hend.resolve_left (by simp)
    have hsame := opensBlock_append_of_mem (List.mem_of_getLast? hline) rest
    rw [cut] at hquiet
    split at hquiet
    · simp at hquiet
    · rename_i hopens
      obtain ⟨hheader, hparts⟩ := Prod.mk.inj hquiet
      have hlater : cut (c = '\n') header = (header, []) :=
        Prod.ext (List.cons.inj hheader).2 hparts
      rw [← hsame, List.cons_append] at hopens
      rw [List.cons_append, cut, if_neg hopens, ih hlater (getLast?_cons_eq_iff.1 hline)]
      rfl

theorem isBlock_cons_iff {c : Char} {b : List Char} :
    IsBlock (c :: b) ↔ opensBlock (c :: b) = true ∧ cut (c = '\n') b = (b, []) := by
  rw [IsBlock, cut, Bool.true_and]
  split
  · simp [*, Prod.ext_iff]
  · simp [*]

theorem IsBlock.ne_nil {b : List Char} (hb : IsBlock b) : b ≠ [] := by
  rintro rfl
  simp [IsBlock, cut] at hb

/-- A block that ends with a line ends there whatever follows. -/
theorem IsBlock.cut_append {b : List Char} (hb : IsBlock b) (hend : b.getLast? = some '\n')
    (rest : List Char) : cut true (b ++ rest) = ([], (b ++ (cut true rest).1) :: (cut true rest).2) := by
  obtain ⟨c, b, rfl⟩ := List.exists_cons_of_ne_nil hb.ne_nil
  obtain ⟨hopens, hquiet⟩ := isBlock_cons_iff.1 hb
  have hopens' : opensBlock (c :: (b ++ rest)) = true := opensBlock_append_of_opensBlock hopens rest
  rw [List.cons_append, cut, Bool.true_and, if_pos hopens',
    Bundle.cut_append hquiet (getLast?_cons_eq_iff.1 hend)]
  rfl

/-- **A text is cut** into a header and blocks. -/
theorem isCut_cut (atStart : Bool) (cs : List Char) :
    IsCut atStart (cut atStart cs).1 (cut atStart cs).2 := by
  induction cs generalizing atStart with
  | nil => exact ⟨rfl, fun h ↦ absurd rfl h, fun _ h ↦ absurd h List.not_mem_nil, .nil⟩
  | cons c cs ih =>
    have hcs := append_cut (c = '\n') cs
    obtain ⟨hquiet, hend, hblock, hended⟩ := ih (c = '\n')
    rw [cut]
    generalize cut (c = '\n') cs = later at *
    obtain ⟨front, parts⟩ := later
    simp only at hcs hquiet hend hblock hended ⊢
    have hlast : parts ≠ [] → (c :: front).getLast? = some '\n' := fun hne ↦
      getLast?_cons_eq_iff.2 (hend hne)
    -- whether the line opens a block is told by what comes before the next one
    have hopens : opensBlock (c :: cs) = opensBlock (c :: front) := by
      by_cases hparts : parts = []
      · rw [← hcs, hparts, List.flatten_nil, List.append_nil]
      · rw [← hcs, ← List.cons_append]
        exact opensBlock_append_of_mem (List.mem_of_getLast? (hlast hparts)) _
    rw [hopens]
    split
    · rename_i h
      rw [Bool.and_eq_true] at h
      refine ⟨rfl, fun _ ↦ .inl ⟨rfl, h.1⟩, ?_, .cons (fun b hb ↦ ?_) hended⟩
      · rintro b hb
        rcases List.mem_cons.1 hb with rfl | hb
        · exact isBlock_cons_iff.2 ⟨h.2, hquiet⟩
        · exact hblock b hb
      · exact hlast (List.ne_nil_of_mem hb)
    · rename_i h
      refine ⟨?_, fun hne ↦ .inr (hlast hne), hblock, hended⟩
      rw [cut, if_neg h, hquiet]

/-- Some of the blocks of a text make a text that is cut into them. -/
theorem IsCut.sublist (h : IsCut atStart header parts) (hkept : kept.Sublist parts) :
    IsCut atStart header kept where
  quiet := h.quiet
  header_ended hne := h.header_ended fun hparts ↦ hne (List.sublist_nil.1 (hparts ▸ hkept))
  isBlock b hb := h.isBlock b (hkept.subset hb)
  ended := h.ended.sublist hkept

/-- Blocks one after another are cut into these. -/
theorem cut_flatten (hblock : ∀ b ∈ parts, IsBlock b)
    (hended : parts.Pairwise fun b _ ↦ b.getLast? = some '\n') :
    cut true parts.flatten = ([], parts) := by
  induction parts with
  | nil => rfl
  | cons b parts ih =>
    rw [List.pairwise_cons] at hended
    have hb := hblock b (List.mem_cons_self ..)
    have hrest := ih (fun b' hb' ↦ hblock b' (List.mem_cons_of_mem _ hb')) hended.2
    cases parts with
    | nil => simpa [IsBlock] using hb
    | cons b' parts =>
      rw [List.flatten_cons, hb.cut_append (hended.1 b' (List.mem_cons_self ..)), hrest,
        List.append_nil]

/-- **What is cut like a text is cut again.** -/
theorem IsCut.cut_eq (h : IsCut atStart header parts) :
    cut atStart (header ++ parts.flatten) = (header, parts) := by
  by_cases hparts : parts = []
  · rw [hparts, List.flatten_nil, List.append_nil, h.quiet]
  · rw [cut_append h.quiet (h.header_ended hparts), cut_flatten h.isBlock h.ended, List.append_nil]

/-- The blocks of a text. -/
def blocksOf (text : String) : List (List Char) :=
  (cut true text.toList).2

@[simp] theorem blocksOf_ofList (cs : List Char) : blocksOf (String.ofList cs) = (cut true cs).2 := by
  rw [blocksOf, String.toList_ofList]

/-! ### Where the blocks are -/

/-- Blocks that lie one after another, each with its position. -/
def placedFrom (position : Nat) : List (List Char) → List (Nat × List Char)
  | [] => []
  | b :: parts => (position, b) :: placedFrom (position + b.length) parts

/-- The blocks of a text, each with its position. -/
def placed (cs : List Char) : List (Nat × List Char) :=
  placedFrom (cut true cs).1.length (cut true cs).2

variable {position : Nat} {x : Nat × List Char}

@[simp] theorem map_snd_placedFrom (position : Nat) (parts : List (List Char)) :
    (placedFrom position parts).map (·.2) = parts := by
  induction parts generalizing position with
  | nil => rfl
  | cons b parts ih => rw [placedFrom, List.map_cons, ih]

theorem le_of_mem_placedFrom (h : x ∈ placedFrom position parts) : position ≤ x.1 := by
  induction parts generalizing position with
  | nil => exact absurd h List.not_mem_nil
  | cons b parts ih =>
    rcases List.mem_cons.1 h with rfl | h
    · exact Nat.le_refl _
    · exact Nat.le_of_add_right_le (ih h)

/-- The first block is the only one at its position. -/
theorem eq_of_mem_placedFrom_cons {b b' : List Char} (hb : b ≠ [])
    (h : (position, b') ∈ placedFrom position (b :: parts)) : b' = b := by
  rcases List.mem_cons.1 h with heq | h
  · exact (Prod.mk.inj heq).2
  · have hpos := List.length_pos_iff.2 hb
    have hle := le_of_mem_placedFrom h
    simp only at hle
    omega

/-- What is not at the position of the first block is a later one. -/
theorem mem_placedFrom_of_ne {b : List Char} (h : x ∈ placedFrom position (b :: parts))
    (hne : x.1 ≠ position) : x ∈ placedFrom (position + b.length) parts := by
  rcases List.mem_cons.1 h with rfl | h
  · exact absurd rfl hne
  · exact h

theorem pairwise_placedFrom (hne : ∀ b ∈ parts, b ≠ []) :
    (placedFrom position parts).Pairwise fun x y ↦ x.1 < y.1 := by
  induction parts generalizing position with
  | nil => exact .nil
  | cons b parts ih =>
    have hb := List.length_pos_iff.2 (hne b (List.mem_cons_self ..))
    refine .cons (fun y hy ↦ ?_) (ih fun b' hb' ↦ hne b' (List.mem_cons_of_mem _ hb'))
    have := le_of_mem_placedFrom hy
    simp only
    omega

/-- What a text has from each of its blocks on, with the position of the block. -/
def tailsFrom (position : Nat) : List (List Char) → List (Nat × List Char)
  | [] => []
  | b :: parts => (position, b ++ parts.flatten) :: tailsFrom (position + b.length) parts

theorem map_fst_tailsFrom (position : Nat) (parts : List (List Char)) :
    (tailsFrom position parts).map (·.1) = (placedFrom position parts).map (·.1) := by
  induction parts generalizing position with
  | nil => rfl
  | cons b parts ih => rw [tailsFrom, placedFrom, List.map_cons, List.map_cons, ih]

/-- **The lines that open a block** are those at which the text is cut. -/
theorem filter_opensBlock_eq (position : Nat) (atStart : Bool) (cs : List Char) :
    (lineStartsFrom position atStart cs).filter (fun line ↦ opensBlock line.2) =
      tailsFrom (position + (cut atStart cs).1.length) (cut atStart cs).2 := by
  induction cs generalizing position atStart with
  | nil =>
    have hnil : opensBlock [] = false := by decide
    cases atStart <;> simp [lineStartsFrom, cut, tailsFrom, hnil]
  | cons c cs ih =>
    have hcs := append_cut (c = '\n') cs
    have hrest := ih (position + 1) (c = '\n')
    rw [Nat.add_assoc, Nat.add_comm 1] at hrest
    rw [lineStartsFrom, cut]
    cases atStart with
    | false => simpa using hrest
    | true =>
      cases hopens : opensBlock (c :: cs) with
      | false => simpa [hopens] using hrest
      | true => simpa [hopens, tailsFrom, hcs] using hrest

theorem openers_eq (cs : List Char) :
    openers 0 cs = tailsFrom (cut true cs).1.length (cut true cs).2 := by
  rw [openers, filter_opensBlock_eq, Nat.zero_add]

theorem boundaries_eq (cs : List Char) : boundaries cs = (placed cs).map (·.1) := by
  have hopeners : boundaries cs = (openers 0 cs).map (·.1) := rfl
  rw [hopeners, openers_eq, map_fst_tailsFrom, placed]

/-- The first of the positions behind that of a block is where the block ends. -/
theorem find?_placedFrom (hne : ∀ b ∈ parts, b ≠ []) (hx : x ∈ placedFrom position parts) :
    (((placedFrom position parts).map (·.1)).find? fun n ↦ x.1 < n).getD
      (position + parts.flatten.length) = x.1 + x.2.length := by
  induction parts generalizing position with
  | nil => exact absurd hx List.not_mem_nil
  | cons b parts ih =>
    have hb := List.length_pos_iff.2 (hne b (List.mem_cons_self ..))
    rcases List.mem_cons.1 hx with rfl | hx
    · rw [placedFrom, List.map_cons, List.find?_cons_of_neg (by simp)]
      cases parts with
      | nil => simp [placedFrom]
      | cons b' parts =>
        rw [placedFrom, List.map_cons, List.find?_cons_of_pos (by simpa using hb), Option.getD_some]
    · have hle := le_of_mem_placedFrom hx
      have hrest := ih (fun b' hb' ↦ hne b' (List.mem_cons_of_mem _ hb')) hx
      rw [placedFrom, List.map_cons, List.find?_cons_of_neg (by simp; omega), List.flatten_cons,
        List.length_append, ← Nat.add_assoc, hrest]

theorem ne_nil_of_mem_cut {b : List Char} (h : b ∈ (cut atStart cs).2) : b ≠ [] :=
  ((isCut_cut atStart cs).isBlock b h).ne_nil

/-- **A block ends where the next one starts**, and the last one with the text. -/
theorem blockEnd_placed (hx : x ∈ placed cs) : blockEnd cs x.1 = x.1 + x.2.length := by
  have hlength := congrArg List.length (append_cut true cs)
  rw [List.length_append] at hlength
  rw [blockEnd, boundaries_eq, ← hlength]
  exact find?_placedFrom (fun b ↦ ne_nil_of_mem_cut) hx

/-- The block that is found for a name is one of the text. -/
theorem exists_placed_of_blockStart? {name : String} {start : Nat}
    (h : blockStart? cs name = some start) : ∃ b, (start, b) ∈ placed cs := by
  rw [blockStart?_eq_openers] at h
  obtain ⟨line, hline, rfl⟩ := Option.map_eq_some_iff.1 h
  have hmem : line.1 ∈ (placed cs).map (·.1) := by
    rw [← boundaries_eq]
    exact List.mem_map_of_mem (List.mem_of_find?_eq_some hline)
  obtain ⟨x, hx, hstart⟩ := List.mem_map.1 hmem
  exact ⟨x.2, hstart ▸ hx⟩

/-! ### Cutting blocks out -/

/-- What is left of blocks when those at some positions are left out. -/
def keptFrom (position : Nat) (parts : List (List Char)) (starts : List Nat) :
    List (List Char) :=
  ((placedFrom position parts).filter fun x ↦ x.1 ∉ starts).map (·.2)

theorem keptFrom_cons (position : Nat) (b : List Char) (parts : List (List Char))
    (starts : List Nat) : keptFrom position (b :: parts) starts =
      if position ∈ starts then keptFrom (position + b.length) parts starts
      else b :: keptFrom (position + b.length) parts starts := by
  rw [keptFrom, placedFrom, List.filter_cons]
  by_cases h : position ∈ starts <;> simp [h, keptFrom]

theorem keptFrom_congr {starts starts' : List Nat}
    (h : ∀ x ∈ placedFrom position parts, x.1 ∈ starts ↔ x.1 ∈ starts') :
    keptFrom position parts starts = keptFrom position parts starts' := by
  have hfilter : ((placedFrom position parts).filter fun x ↦ x.1 ∉ starts) =
      (placedFrom position parts).filter fun x ↦ x.1 ∉ starts' :=
    List.filter_congr fun x hx ↦ by rw [decide_eq_decide, h x hx]
  rw [keptFrom, keptFrom, hfilter]

/-- A position before the blocks leaves none out. -/
theorem keptFrom_cons_of_lt {n : Nat} (h : n < position) (parts : List (List Char))
    (starts : List Nat) : keptFrom position parts (n :: starts) = keptFrom position parts starts := by
  refine keptFrom_congr fun x hx ↦ ?_
  have := le_of_mem_placedFrom hx
  rw [List.mem_cons, or_iff_right (by omega)]

@[simp] theorem keptFrom_nil (position : Nat) (parts : List (List Char)) :
    keptFrom position parts [] = parts := by
  simp [keptFrom]

/-- What is left are blocks in their order. -/
theorem sublist_keptFrom (position : Nat) (parts : List (List Char)) (starts : List Nat) :
    (keptFrom position parts starts).Sublist parts := by
  have h := (List.filter_sublist (p := fun x : Nat × List Char ↦ decide (x.1 ∉ starts))
    (l := placedFrom position parts)).map (·.2)
  rwa [map_snd_placedFrom] at h

/-- **Cutting out spans that are blocks** leaves the other blocks, and what is before. -/
theorem cutFrom_placedFrom {before : List Char} {cursor : Nat} {spans : List Span}
    (hne : ∀ b ∈ parts, b ≠ []) (hcursor : cursor ≤ before.length)
    (hsorted : spans.Pairwise fun a b ↦ a.start < b.start)
    (hspans : ∀ s ∈ spans, ∃ b, (s.start, b) ∈ placedFrom before.length parts ∧
      s.stop = s.start + b.length) :
    cutFrom (before ++ parts.flatten) cursor spans =
      .ok (before.drop cursor ++
        (keptFrom before.length parts (spans.map (·.start))).flatten) := by
  induction parts generalizing before cursor spans with
  | nil =>
    obtain rfl : spans = [] := by
      refine List.eq_nil_iff_forall_not_mem.2 fun s hs ↦ ?_
      obtain ⟨b, hb, -⟩ := hspans s hs
      exact absurd hb List.not_mem_nil
    simp [cutFrom]
  | cons b parts ih =>
    have hb := List.length_pos_iff.2 (hne b (List.mem_cons_self ..))
    have hlater := fun b' hb' ↦ hne b' (List.mem_cons_of_mem b hb')
    have hlength : (before ++ b).length = before.length + b.length := List.length_append
    have htext : before ++ (b :: parts).flatten = (before ++ b) ++ parts.flatten := by simp
    -- a span that starts behind the first block is one of the blocks behind it
    have hbehind : ∀ s ∈ spans, s.start ≠ before.length →
        ∃ b', (s.start, b') ∈ placedFrom (before ++ b).length parts ∧
          s.stop = s.start + b'.length := by
      intro s hs hstart
      obtain ⟨b', hb', hstop⟩ := hspans s hs
      exact ⟨b', hlength ▸ mem_placedFrom_of_ne hb' hstart, hstop⟩
    cases spans with
    | nil => simp [cutFrom, List.drop_append_of_le_length hcursor]
    | cons s spans =>
      obtain ⟨hleast, hsorted'⟩ := List.pairwise_cons.1 hsorted
      obtain ⟨b', hb', hstop⟩ := hspans s (List.mem_cons_self ..)
      have hle : before.length ≤ s.start := le_of_mem_placedFrom hb'
      by_cases hs : s.start = before.length
      · -- the first block is cut out
        rw [hs] at hb'
        obtain rfl := eq_of_mem_placedFrom_cons (hne b (List.mem_cons_self ..)) hb'
        have hrest := @ih (before ++ b') _ spans hlater (Nat.le_refl _) hsorted'
          fun t ht ↦ hbehind t (List.mem_cons_of_mem _ ht) (Nat.ne_of_gt (hs ▸ hleast t ht))
        rw [htext, cutFrom_cons_block hcursor hs (by rw [hstop, hs, hlength]), hrest, List.map_cons,
          keptFrom_cons, hs, if_pos (List.mem_cons_self ..),
          keptFrom_cons_of_lt (Nat.lt_add_of_pos_right hb), List.drop_length, hlength]
        rfl
      · -- all spans start behind it, and it is kept
        have hnot : ∀ t ∈ s :: spans, t.start ≠ before.length := by
          intro t ht
          rcases List.mem_cons.1 ht with rfl | ht
          · exact hs
          · have := hleast t ht
            omega
        have hrest := @ih (before ++ b) cursor _ hlater (by omega) hsorted
          fun t ht ↦ hbehind t ht (hnot t ht)
        have hkeep : before.length ∉ (s :: spans).map (·.start) := by
          intro hmem
          obtain ⟨t, ht, hstart⟩ := List.mem_map.1 hmem
          exact hnot t ht hstart
        rw [htext, hrest, keptFrom_cons, if_neg hkeep, hlength]
        simp [List.drop_append_of_le_length hcursor]

/-- Spans that can be cut out one after another lie in order. -/
theorem pairwise_of_cutFrom {cursor : Nat} {spans : List Span} {rest : List Char}
    (h : cutFrom cs cursor spans = .ok rest) (hspans : ∀ s ∈ spans, s.start < s.stop) :
    (∀ s ∈ spans, cursor ≤ s.start) ∧ spans.Pairwise fun a b ↦ a.start < b.start := by
  induction spans generalizing cursor rest with
  | nil => exact ⟨fun _ hs ↦ absurd hs List.not_mem_nil, .nil⟩
  | cons s spans ih =>
    rw [cutFrom] at h
    split at h
    · rename_i hcursor
      cases hlater : cutFrom cs s.stop spans with
      | error e => simp [hlater, Except.map] at h
      | ok later =>
        obtain ⟨hle, hsorted⟩ := ih hlater fun t ht ↦ hspans t (List.mem_cons_of_mem _ ht)
        have hs := hspans s (List.mem_cons_self ..)
        refine ⟨fun t ht ↦ ?_, .cons (fun t ht ↦ Nat.lt_of_lt_of_le hs (hle t ht)) hsorted⟩
        rcases List.mem_cons.1 ht with rfl | ht
        · exact hcursor
        · have := hle t ht
          omega
    · simp at h

/-! ### Stripping -/

/-- The span of the block that is found for a name. -/
def span? (cs : List Char) (name : String) : Option Span :=
  (blockStart? cs name).map fun start ↦ ⟨start, blockEnd cs start, name⟩

/-- The spans that are looked for are those of the blocks that are found. -/
theorem fst_of_foldlM_findSpan {globals : List String} {state final : List Span × StripReport}
    (h : globals.foldlM (findSpan cs) state = .ok final) :
    final.1 = state.1 ++ globals.filterMap (span? cs) := by
  induction globals generalizing state with
  | nil =>
    obtain rfl : state = final := by simpa [pure, Except.pure] using h
    simp
  | cons g globals ih =>
    rw [List.foldlM_cons] at h
    cases hfound : findSpan cs state g with
    | error e => simp [hfound, bind, Except.bind] at h
    | ok next =>
      rw [hfound] at h
      rw [ih h, List.filterMap_cons, span?]
      cases hstart : blockStart? cs g with
      | none =>
        simp only [findSpan, hstart, Except.ok.injEq] at hfound
        simp [← hfound]
      | some start =>
        simp only [findSpan, hstart] at hfound
        split at hfound
        · obtain rfl := Except.ok.inj hfound
          simp
        · simp at hfound

/-- The blocks of a text but those that are found for names. -/
def keptBlocks (cs : List Char) (globals : List String) : List (List Char) :=
  keptFrom (cut true cs).1.length (cut true cs).2 (globals.filterMap (blockStart? cs))

/-- The spans of the blocks that are found for names, in the order of their starts. -/
def sortedSpans (cs : List Char) (globals : List String) : List Span :=
  (globals.filterMap (span? cs)).mergeSort fun a b ↦ a.start ≤ b.start

theorem mem_sortedSpans {globals : List String} {s : Span} :
    s ∈ sortedSpans cs globals ↔ ∃ g ∈ globals, span? cs g = some s := by
  rw [sortedSpans, List.mem_mergeSort, List.mem_filterMap]

/-- The span of a block that is found is that of a block of the text. -/
theorem exists_placed_of_mem_sortedSpans {globals : List String} {s : Span}
    (h : s ∈ sortedSpans cs globals) :
    ∃ b, (s.start, b) ∈ placed cs ∧ s.stop = s.start + b.length := by
  obtain ⟨g, -, hs⟩ := mem_sortedSpans.1 h
  obtain ⟨start, hstart, rfl⟩ := Option.map_eq_some_iff.1 hs
  obtain ⟨b, hb⟩ := exists_placed_of_blockStart? hstart
  exact ⟨b, hb, blockEnd_placed hb⟩

/-- No span is empty, as no block is. -/
theorem start_lt_stop {globals : List String} {s : Span} (h : s ∈ sortedSpans cs globals) :
    s.start < s.stop := by
  obtain ⟨b, hb, hstop⟩ := exists_placed_of_mem_sortedSpans h
  have hmem : b ∈ (cut true cs).2 := by
    rw [← map_snd_placedFrom (cut true cs).1.length (cut true cs).2]
    exact List.mem_map_of_mem hb
  rw [hstop]
  exact Nat.lt_add_of_pos_right (List.length_pos_iff.2 (ne_nil_of_mem_cut hmem))

/-- Cutting out spans that start one behind the other leaves the header and the other blocks. -/
theorem cutFrom_sortedSpans {globals : List String}
    (h : (sortedSpans cs globals).Pairwise fun a b ↦ a.start < b.start) :
    cutFrom cs 0 (sortedSpans cs globals) =
      .ok ((cut true cs).1 ++ (keptBlocks cs globals).flatten) := by
  have hcut := cutFrom_placedFrom (fun b ↦ ne_nil_of_mem_cut)
    (Nat.zero_le (cut true cs).1.length) h fun s ↦ exists_placed_of_mem_sortedSpans
  rw [append_cut, List.drop_zero] at hcut
  rw [hcut, keptBlocks]
  congr 3
  refine keptFrom_congr fun x _ ↦ ?_
  simp [sortedSpans, span?, List.mem_mergeSort]

/-- **What stripping leaves**: the header of the text, and its blocks but those that are found for the
names. -/
theorem toList_of_stripText {text : String} {globals : List String} {r : Stripped}
    (h : stripText text globals = .ok r) :
    r.text.toList = (cut true text.toList).1 ++ (keptBlocks text.toList globals).flatten := by
  simp only [stripText, bind, Except.bind] at h
  split at h
  · simp at h
  · rename_i state hfold
    obtain ⟨spans, report⟩ := state
    obtain rfl : spans = globals.filterMap (span? text.toList) := by
      simpa using fst_of_foldlM_findSpan hfold
    split at h
    · simp at h
    · rename_i rest hrest
      obtain rfl := Except.ok.inj h
      have hordered := (pairwise_of_cutFrom hrest fun s ↦ start_lt_stop).2
      have hcut : cutFrom text.toList 0 (sortedSpans text.toList globals) = .ok rest := hrest
      rw [cutFrom_sortedSpans hordered] at hcut
      rw [String.toList_ofList, Except.ok.inj hcut]

/-- **The blocks that stripping leaves** are the blocks of what it leaves: leaving some out reveals no
other. -/
theorem blocksOf_of_stripText {text : String} {globals : List String} {r : Stripped}
    (h : stripText text globals = .ok r) : blocksOf r.text = keptBlocks text.toList globals := by
  have hkept : (keptBlocks text.toList globals).Sublist (cut true text.toList).2 :=
    sublist_keptFrom ..
  rw [blocksOf, toList_of_stripText h, ((isCut_cut true text.toList).sublist hkept).cut_eq]

end LuaBundler.Bundle
