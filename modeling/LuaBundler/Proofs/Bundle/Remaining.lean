import LuaBundler.Proofs.Bundle.Cutting
import LuaBundler.Source.Require

/-!
# Which registrations stripping a text leaves

A block registers a name if its literal is the written form of the name, or the name as it is between
quotes of either kind (`denotes`). Stripping a text should leave no block that registers one of the
names, and every block that registers the entry (`Strips`).

A text is stripped by looking for each name as it is, and for its first block alone. So a block is left
if it is a later one of its name, or if the literal is an escaped form, and the blocks of the entry are
not kept if it is among the names. `strips_iff` says exactly when all is well; for names without
quotes, escapes and line feeds it is when each is registered once at most, and the entry is not one of
them. `not_strips_manyRegistrations` has a text for which it is not.
-/

namespace LuaBundler.Bundle

open Text

/-- Whether a block registers a name: its literal is the written form of the name, or the name itself
between single quotes. -/
def denotes (name block : List Char) : Bool :=
  registerCall.toList.isPrefixOf block &&
    let argument := dropBlanks (block.drop registerCall.length)
    namedBetween '"' (Source.quotedBody name) argument ||
      (name.all (Source.isNameChar '\'') && namedBetween '\'' name argument)

/-- What stripping a text should leave: no block that registers one of the names, the entry apart, and
every block that registers the entry. -/
structure Strips (globals : List String) (text rest : String) : Prop where
  complete : ∀ b ∈ blocksOf rest, ∀ g ∈ globals, g ≠ rootName → denotes g.toList b = false
  entry : (blocksOf rest).filter (denotes rootName.toList) =
    (blocksOf text).filter (denotes rootName.toList)

/-- A name that stands for itself between quotes of either kind. -/
def IsPlainName (name : String) : Prop :=
  IsVerbatim name ∧ '\'' ∉ name.toList

instance (name : String) : Decidable (IsPlainName name) :=
  inferInstanceAs (Decidable (_ ∧ _))

variable {name rest l : List Char} {text : String} {globals : List String}

/-! ### Blocks and what follows them -/

/-- A block starts with a letter or an underscore, which is neither blank nor a delimiter. -/
theorem exists_of_opensBlock (h : opensBlock rest = true) :
    ∃ c tail, rest = c :: tail ∧ (c = '_' ∨ c = 'r') := by
  simp only [opensBlock, Bool.or_eq_true, List.isPrefixOf_iff_prefix] at h
  rcases h with ⟨tail, rfl⟩ | ⟨tail, rfl⟩
  · exact ⟨'_', _, rfl, .inl rfl⟩
  · exact ⟨'r', _, rfl, .inr rfl⟩

theorem isPrefixOf_of_opensBlock (hrest : rest = [] ∨ opensBlock rest = true) {c : Char}
    (hc : c ∉ ['_', 'r']) (marker : List Char) : (c :: marker).isPrefixOf rest = false := by
  rcases hrest with rfl | hopens
  · rfl
  · obtain ⟨d, tail, rfl, hd⟩ := exists_of_opensBlock hopens
    have hne : c ≠ d := by
      rintro rfl
      rcases hd with rfl | rfl <;> simp at hc
    simp [List.isPrefixOf, hne]

theorem dropBlanks_of_opensBlock (hrest : rest = [] ∨ opensBlock rest = true) :
    dropBlanks rest = rest := by
  rcases hrest with rfl | hopens
  · rfl
  · obtain ⟨d, tail, rfl, hd⟩ := exists_of_opensBlock hopens
    rcases hd with rfl | rfl <;> exact dropBlanks_eq_self (by decide)

/-- Blanks at the end of a block end where the next one starts. -/
theorem dropBlanks_append (hrest : rest = [] ∨ opensBlock rest = true) (l : List Char) :
    dropBlanks (l ++ rest) = dropBlanks l ++ rest := by
  rw [dropBlanks, List.dropWhile_append]
  split
  · rename_i hempty
    rw [List.isEmpty_iff] at hempty
    rw [← dropBlanks, dropBlanks_of_opensBlock hrest, dropBlanks, hempty, List.nil_append]
  · rfl

/-- A marker on one line that stands at the end of a block stands in it. -/
theorem isPrefixOf_append_of_ended {c : Char} {marker : List Char} (hc : c ∉ ['_', 'r'])
    (hmarker : '\n' ∉ c :: marker) (hl : l = [] ∨ '\n' ∈ l)
    (hrest : rest = [] ∨ opensBlock rest = true) :
    (c :: marker).isPrefixOf (l ++ rest) = (c :: marker).isPrefixOf l := by
  rcases hl with rfl | hline
  · exact isPrefixOf_of_opensBlock hrest hc marker
  · obtain ⟨first, later, rfl⟩ := List.append_of_mem hline
    rw [List.append_assoc, List.cons_append, isPrefixOf_append_cons hmarker,
      isPrefixOf_append_cons hmarker]

/-- A literal at the end of a block, with its comma, stands in it. -/
theorem namedBetween_append {quote : Char} (hquote : quote = '"' ∨ quote = '\'')
    (hname : '\n' ∉ name) (hl : l = [] ∨ '\n' ∈ l) (hrest : rest = [] ∨ opensBlock rest = true) :
    namedBetween quote name (l ++ rest) = namedBetween quote name l := by
  have hmark : quote ∉ ['_', 'r'] := by rcases hquote with rfl | rfl <;> decide
  have hline : '\n' ∉ quote :: (name ++ [quote]) := by
    rcases hquote with rfl | rfl <;> simpa using hname
  have hprefix := isPrefixOf_append_of_ended hmark hline hl hrest
  simp only [namedBetween, List.cons_append, hprefix]
  cases hliteral : (quote :: (name ++ [quote])).isPrefixOf l with
  | false => rfl
  | true =>
    obtain ⟨tail, rfl⟩ := List.isPrefixOf_iff_prefix.1 hliteral
    have hcomma : [','].isPrefixOf (dropBlanks tail ++ rest) = [','].isPrefixOf (dropBlanks tail) := by
      cases dropBlanks tail with
      | nil => exact isPrefixOf_of_opensBlock hrest (by decide) []
      | cons d tail => simp [List.isPrefixOf]
    rw [List.append_assoc, List.drop_left, List.drop_left, dropBlanks_append hrest, hcomma]

/-- **What follows a block does not matter to which name it registers.** -/
theorem registers_append {b : List Char} (hname : '\n' ∉ name) (hb : b.getLast? = some '\n')
    (hrest : rest = [] ∨ opensBlock rest = true) :
    registers name (b ++ rest) = registers name b := by
  have hcall : registerCall.toList.isPrefixOf (b ++ rest) = registerCall.toList.isPrefixOf b := by
    obtain ⟨first, later, rfl⟩ := List.append_of_mem (List.mem_of_getLast? hb)
    rw [List.append_assoc, List.cons_append, isPrefixOf_append_cons (by decide),
      isPrefixOf_append_cons (by decide)]
  rw [registers, registers, hcall]
  cases hopens : registerCall.toList.isPrefixOf b with
  | false => rfl
  | true =>
    obtain ⟨tail, rfl⟩ := List.isPrefixOf_iff_prefix.1 hopens
    have hdrop : ∀ cs, (registerCall.toList ++ cs).drop registerCall.length = cs := fun cs ↦
      List.drop_left' (by decide)
    have hl : dropBlanks tail = [] ∨ '\n' ∈ dropBlanks tail := by
      refine or_iff_not_imp_left.2 fun hne ↦ List.mem_of_getLast? ?_
      rw [← takeWhile_append_dropBlanks tail, ← List.append_assoc,
        List.getLast?_append_of_ne_nil _ hne] at hb
      exact hb
    rw [List.append_assoc, hdrop, hdrop, dropBlanks_append hrest]
    simp only [namedBetween_append (.inl rfl) hname hl hrest,
      namedBetween_append (.inr rfl) hname hl hrest]

theorem registers_flatten {b : List Char} {parts : List (List Char)} (hname : '\n' ∉ name)
    (hblock : ∀ b ∈ parts, IsBlock b) (hb : parts ≠ [] → b.getLast? = some '\n') :
    registers name (b ++ parts.flatten) = registers name b := by
  cases parts with
  | nil => rw [List.flatten_nil, List.append_nil]
  | cons b' parts =>
    refine registers_append hname (hb (List.cons_ne_nil b' parts)) (.inr ?_)
    have hb' := hblock b' (List.mem_cons_self ..)
    obtain ⟨c, b', rfl⟩ := List.exists_cons_of_ne_nil hb'.ne_nil
    exact opensBlock_append_of_opensBlock (isBlock_cons_iff.1 hb').1 _

/-- A name is found first at the first block that registers it. -/
theorem find?_tailsFrom {parts : List (List Char)} (hname : '\n' ∉ name) (position : Nat)
    (hblock : ∀ b ∈ parts, IsBlock b) (hended : parts.Pairwise fun b _ ↦ b.getLast? = some '\n') :
    ((tailsFrom position parts).find? fun x ↦ registers name x.2).map (·.1) =
      ((placedFrom position parts).find? fun x ↦ registers name x.2).map (·.1) := by
  induction parts generalizing position with
  | nil => rfl
  | cons b parts ih =>
    obtain ⟨hb, hended'⟩ := List.pairwise_cons.1 hended
    have hblock' := fun b' hb' ↦ hblock b' (List.mem_cons_of_mem b hb')
    have hsame := registers_flatten (b := b) hname hblock' fun hne ↦ by
      obtain ⟨b', parts, rfl⟩ := List.exists_cons_of_ne_nil hne
      exact hb b' (List.mem_cons_self ..)
    rw [tailsFrom, placedFrom, List.find?_cons, List.find?_cons, hsame]
    cases registers name b with
    | true => rfl
    | false => exact ih _ hblock' hended'

theorem blockStart?_eq_placed {name : String} (hname : '\n' ∉ name.toList) (cs : List Char) :
    blockStart? cs name =
      ((placed cs).find? fun x ↦ registers name.toList x.2).map (·.1) := by
  have hcut := isCut_cut true cs
  rw [blockStart?_eq_openers, openers_eq, placed, find?_tailsFrom hname _ hcut.isBlock hcut.ended]

/-! ### Plain names -/

/-- A plain name is looked for as it is registered. -/
theorem denotes_eq_registers {name : String} (h : IsPlainName name) (b : List Char) :
    denotes name.toList b = registers name.toList b := by
  have hbody : Source.quotedBody name.toList = name.toList := by
    have := toList_quoted h.1
    rw [Source.quoted, String.toList_ofList] at this
    simpa using this
  have hall : name.toList.all (Source.isNameChar '\'') = true := by
    rw [List.all_eq_true]
    intro c hc
    have hsingle := ne_of_mem_of_not_mem hc h.2
    have hback := ne_of_mem_of_not_mem hc h.1.2.1
    have hline := ne_of_mem_of_not_mem hc h.1.2.2
    simp [Source.isNameChar, hsingle, hback, hline]
  rw [denotes, registers, hbody, hall]
  rfl

/-- A literal is that of one name. -/
theorem eq_of_namedBetween {quote quote' : Char} {n m argument : List Char}
    (hn : namedBetween quote n argument = true) (hm : namedBetween quote' m argument = true)
    (hquote : quote ∉ n) (hquote' : quote' ∉ m) : n = m := by
  have hprefix : ∀ {q : Char} {k : List Char}, namedBetween q k argument = true →
      ∃ tail, argument = q :: (k ++ q :: tail) := by
    intro q k h
    rw [namedBetween, Bool.and_eq_true, List.isPrefixOf_iff_prefix] at h
    obtain ⟨⟨tail, htail⟩, -⟩ := h
    exact ⟨tail, by simp [← htail]⟩
  obtain ⟨tail, rfl⟩ := hprefix hn
  obtain ⟨tail', htail'⟩ := hprefix hm
  obtain ⟨rfl, hbody⟩ := List.cons.inj htail'
  rw [← takeWhile_append_quote hquote tail, hbody, takeWhile_append_quote hquote' tail']

/-- A block registers one plain name. -/
theorem eq_of_registers {name name' : String} (h : IsPlainName name) (h' : IsPlainName name')
    {b : List Char} (hname : registers name.toList b = true)
    (hname' : registers name'.toList b = true) : name = name' := by
  rw [registers, Bool.and_eq_true, Bool.or_eq_true] at hname hname'
  refine String.toList_inj.1 ?_
  rcases hname.2 with hn | hn <;> rcases hname'.2 with hn' | hn'
  · exact eq_of_namedBetween hn hn' h.1.1 h'.1.1
  · exact eq_of_namedBetween hn hn' h.1.1 h'.2
  · exact eq_of_namedBetween hn hn' h.2 h'.1.1
  · exact eq_of_namedBetween hn hn' h.2 h'.2

/-! ### What is left -/

/-- One of the names is found at a position of a text. -/
def IsFound (globals : List String) (text : String) (position : Nat) : Prop :=
  ∃ g ∈ globals, blockStart? text.toList g = some position

theorem blocksOf_eq (text : String) : blocksOf text = (placed text.toList).map (·.2) := by
  rw [placed, map_snd_placedFrom, blocksOf]

open Classical in
/-- What is left of a text are the blocks at which no name is found. -/
theorem blocksOf_eq_filter {r : Stripped} (h : stripText text globals = .ok r) :
    blocksOf r.text =
      ((placed text.toList).filter fun x ↦ ¬ IsFound globals text x.1).map (·.2) := by
  rw [blocksOf_of_stripText h, keptBlocks, keptFrom, placed]
  congr 1
  refine List.filter_congr fun x _ ↦ ?_
  simp [IsFound]

/-- Leaving elements out keeps those of a kind exactly if none of that kind is left out. -/
theorem filter_map_filter_eq_iff {α β : Type} {f : α → β} {p : α → Bool} {q : β → Bool} {l : List α} :
    ((l.filter p).map f).filter q = (l.map f).filter q ↔ ∀ x ∈ l, q (f x) = true → p x = true := by
  have hcomm : ((l.filter p).map f).filter q = ((l.filter (q ∘ f)).filter p).map f := by
    rw [List.filter_map, List.filter_comm]
  rw [hcomm, List.filter_map]
  constructor
  · intro heq x hx hq
    have hlength := congrArg List.length heq
    rw [List.length_map, List.length_map, List.length_filter_eq_length_iff] at hlength
    exact hlength x (List.mem_filter.2 ⟨hx, hq⟩)
  · intro hall
    rw [List.filter_eq_self.2 fun x hx ↦ ?_]
    rw [List.mem_filter] at hx
    exact hall x hx.1 hx.2

/-- **When stripping leaves what it should**: exactly if some name is found at every block that
registers one of them, the entry apart, and none at a block that registers the entry. -/
theorem strips_iff_isFound {r : Stripped} (h : stripText text globals = .ok r) :
    Strips globals text r.text ↔
      (∀ x ∈ placed text.toList, (∃ g ∈ globals, g ≠ rootName ∧ denotes g.toList x.2 = true) →
        IsFound globals text x.1) ∧
      (∀ x ∈ placed text.toList, denotes rootName.toList x.2 = true → ¬ IsFound globals text x.1) := by
  classical
  have hentry : (blocksOf r.text).filter (denotes rootName.toList) =
      (blocksOf text).filter (denotes rootName.toList) ↔
        ∀ x ∈ placed text.toList, denotes rootName.toList x.2 = true →
          ¬ IsFound globals text x.1 := by
    rw [blocksOf_eq_filter h, blocksOf_eq, filter_map_filter_eq_iff]
    simp only [decide_eq_true_eq]
  have hcomplete : (∀ b ∈ blocksOf r.text, ∀ g ∈ globals, g ≠ rootName →
      denotes g.toList b = false) ↔
        ∀ x ∈ placed text.toList, (∃ g ∈ globals, g ≠ rootName ∧ denotes g.toList x.2 = true) →
          IsFound globals text x.1 := by
    rw [blocksOf_eq_filter h]
    constructor
    · rintro hall x hx ⟨g, hg, hroot, hdenotes⟩
      by_contra hfound
      have := hall x.2 (List.mem_map_of_mem (List.mem_filter.2 ⟨hx, by simpa using hfound⟩)) g hg hroot
      simp [hdenotes] at this
    · intro hall b hb g hg hroot
      obtain ⟨x, hx, rfl⟩ := List.mem_map.1 hb
      obtain ⟨hx, hfound⟩ := List.mem_filter.1 hx
      rw [← Bool.not_eq_true]
      exact fun hdenotes ↦ of_decide_eq_true hfound (hall x hx ⟨g, hg, hroot, hdenotes⟩)
  rw [← hcomplete, ← hentry]
  exact ⟨fun hs ↦ ⟨hs.complete, hs.entry⟩, fun hs ↦ ⟨hs.1, hs.2⟩⟩

/-- Blocks are told apart by where they start. -/
theorem pairwise_placed (cs : List Char) : (placed cs).Pairwise fun x y ↦ x.1 < y.1 :=
  pairwise_placedFrom fun _ ↦ ne_nil_of_mem_cut

theorem eq_of_mem_placed {cs : List Char} {x y : Nat × List Char} (hx : x ∈ placed cs)
    (hy : y ∈ placed cs) (h : x.1 = y.1) : x = y := by
  have hnodup : ((placed cs).map (·.1)).Nodup :=
    List.pairwise_map.2 ((pairwise_placed cs).imp fun hlt ↦ Nat.ne_of_lt hlt)
  exact List.inj_on_of_nodup_map hnodup hx hy h

/-- A plain name is found at a block exactly if that is the first one to register it. -/
theorem blockStart?_eq_some_iff {name : String} (hname : IsPlainName name) {x : Nat × List Char}
    (hx : x ∈ placed text.toList) : blockStart? text.toList name = some x.1 ↔
      (placed text.toList).find? (fun y ↦ denotes name.toList y.2) = some x := by
  rw [blockStart?_eq_placed hname.1.2.2]
  simp only [denotes_eq_registers hname, Option.map_eq_some_iff]
  constructor
  · rintro ⟨y, hy, hstart⟩
    rwa [eq_of_mem_placed (List.mem_of_find?_eq_some hy) hx hstart] at hy
  · exact fun hfind ↦ ⟨x, hfind, rfl⟩

/-- Of plain names, only that which a block registers is found there. -/
theorem eq_of_blockStart?_eq {name name' : String} (hname : IsPlainName name)
    (hname' : IsPlainName name') {x : Nat × List Char} (hx : x ∈ placed text.toList)
    (hdenotes : denotes name.toList x.2 = true)
    (hfound : blockStart? text.toList name' = some x.1) : name' = name := by
  have hfirst := List.find?_some ((blockStart?_eq_some_iff hname' hx).1 hfound)
  rw [denotes_eq_registers hname'] at hfirst
  rw [denotes_eq_registers hname] at hdenotes
  exact eq_of_registers hname' hname hfirst hdenotes

/-- Each of the names is registered once at most, and the entry is none of them unless nothing
registers it. -/
structure RegistersOnce (globals : List String) (text : String) : Prop where
  once : ∀ g ∈ globals, g ≠ rootName → ((blocksOf text).filter (denotes g.toList)).length ≤ 1
  entry : rootName ∈ globals → (blocksOf text).filter (denotes rootName.toList) = []

theorem isPlainName_rootName : IsPlainName rootName := by
  decide

/-- The first block that registers a plain name among those asked for is found. -/
theorem exists_isFound {name : String} (hname : IsPlainName name) (hmem : name ∈ globals)
    {x : Nat × List Char} (hx : x ∈ placed text.toList) (hdenotes : denotes name.toList x.2 = true) :
    ∃ y ∈ placed text.toList, denotes name.toList y.2 = true ∧ IsFound globals text y.1 := by
  cases hfind : (placed text.toList).find? fun y ↦ denotes name.toList y.2 with
  | none => exact absurd hdenotes (List.find?_eq_none.1 hfind x hx)
  | some y =>
    have hy := List.mem_of_find?_eq_some hfind
    exact ⟨y, hy, by simpa using List.find?_some hfind, name, hmem,
      (blockStart?_eq_some_iff hname hy).2 hfind⟩

/-- A list without repetition has one element at most if no two are different. -/
theorem length_le_one_iff {α : Type} {l : List α} (h : l.Nodup) :
    l.length ≤ 1 ↔ ∀ x ∈ l, ∀ y ∈ l, x = y := by
  match l, h with
  | [], _ => simp
  | [x], _ => simp
  | x :: y :: l, h =>
    have hne : x ≠ y := List.rel_of_pairwise_cons h (List.mem_cons_self ..)
    constructor
    · intro hlength
      simp at hlength
    · intro hall
      exact absurd (hall x (by simp) y (by simp)) hne

/-- One block at most registers a name exactly if no two do. -/
theorem length_filter_denotes_le_one_iff (name : List Char) :
    ((blocksOf text).filter (denotes name)).length ≤ 1 ↔
      ∀ x ∈ placed text.toList, denotes name x.2 = true →
        ∀ y ∈ placed text.toList, denotes name y.2 = true → x = y := by
  have hfilter : ((blocksOf text).filter (denotes name)).length =
      ((placed text.toList).filter fun x ↦ denotes name x.2).length := by
    rw [blocksOf_eq, List.filter_map, List.length_map]
    rfl
  have hnodup : (placed text.toList).Nodup :=
    (pairwise_placed text.toList).imp fun hlt heq ↦ absurd (heq ▸ hlt) (Nat.lt_irrefl _)
  rw [hfilter, length_le_one_iff (hnodup.filter _)]
  simp only [List.mem_filter, and_imp]

/-- Nothing registers a name exactly if no block does. -/
theorem filter_denotes_eq_nil_iff (name : List Char) :
    (blocksOf text).filter (denotes name) = [] ↔
      ∀ x ∈ placed text.toList, denotes name x.2 = false := by
  rw [blocksOf_eq, List.filter_eq_nil_iff, List.forall_mem_map]
  simp only [Bool.not_eq_true]

/-- **Plain names are found where they should be** exactly if each is registered once at most, and the
entry is not among them. -/
theorem isFound_iff_registersOnce (hplain : ∀ g ∈ globals, IsPlainName g) :
    ((∀ x ∈ placed text.toList, (∃ g ∈ globals, g ≠ rootName ∧ denotes g.toList x.2 = true) →
        IsFound globals text x.1) ∧
      (∀ x ∈ placed text.toList, denotes rootName.toList x.2 = true →
        ¬ IsFound globals text x.1)) ↔ RegistersOnce globals text := by
  constructor
  · rintro ⟨hall, hroot⟩
    refine ⟨fun g hg hne ↦ ?_, fun hmem ↦ ?_⟩
    · -- each block that registers the name is the one at which it is found
      have hfirst : ∀ x ∈ placed text.toList, denotes g.toList x.2 = true →
          blockStart? text.toList g = some x.1 := by
        intro x hx hdenotes
        obtain ⟨g', hg', hfound⟩ := hall x hx ⟨g, hg, hne, hdenotes⟩
        rwa [eq_of_blockStart?_eq (hplain g hg) (hplain g' hg') hx hdenotes hfound] at hfound
      rw [length_filter_denotes_le_one_iff]
      intro x hx hxname y hy hyname
      exact eq_of_mem_placed hx hy
        (Option.some.inj ((hfirst x hx hxname).symm.trans (hfirst y hy hyname)))
    · rw [filter_denotes_eq_nil_iff]
      intro x hx
      rw [← Bool.not_eq_true]
      intro hdenotes
      obtain ⟨y, hy, hyroot, hfound⟩ := exists_isFound isPlainName_rootName hmem hx hdenotes
      exact hroot y hy hyroot hfound
  · rintro ⟨honce, hentry⟩
    refine ⟨?_, ?_⟩
    · rintro x hx ⟨g, hg, hne, hdenotes⟩
      obtain ⟨y, hy, hyname, hfound⟩ := exists_isFound (hplain g hg) hg hx hdenotes
      rwa [(length_filter_denotes_le_one_iff _).1 (honce g hg hne) x hx hdenotes y hy hyname]
    · rintro x hx hdenotes ⟨g, hg, hfound⟩
      obtain rfl := eq_of_blockStart?_eq isPlainName_rootName (hplain g hg) hx hdenotes hfound
      have := (filter_denotes_eq_nil_iff _).1 (hentry hg) x hx
      simp [hdenotes] at this

/-- **When stripping a text is complete and spares the entry**: exactly if some name is found at every
block that registers one of them, the entry apart, and none at a block that registers the entry. For
plain names this is when each is registered once at most, and the entry is not one of them. -/
theorem strips_iff {r : Stripped} (h : stripText text globals = .ok r) :
    (Strips globals text r.text ↔
      (∀ x ∈ placed text.toList, (∃ g ∈ globals, g ≠ rootName ∧ denotes g.toList x.2 = true) →
        IsFound globals text x.1) ∧
      (∀ x ∈ placed text.toList, denotes rootName.toList x.2 = true →
        ¬ IsFound globals text x.1)) ∧
    ((∀ g ∈ globals, IsPlainName g) →
      (Strips globals text r.text ↔ RegistersOnce globals text)) :=
  ⟨strips_iff_isFound h, fun hplain ↦
    (strips_iff_isFound h).trans (isFound_iff_registersOnce hplain)⟩

/-! ### At fixed texts -/

/-- An empty module under a literal. -/
def registration (literal : String) : List Char :=
  registerCall.toList ++ literal.toList ++ ", function()\nend)\n".toList

/-- The entry and a module, registered once between quotes of one kind each. -/
def twoRegistrations : List Char :=
  registration "\"__root\"" ++ registration "'net'"

/-- They are stripped as they should be. -/
theorem strips_twoRegistrations :
    ∃ r, stripText (String.ofList twoRegistrations) ["net", "fs"] = .ok r ∧
      Strips ["net", "fs"] (String.ofList twoRegistrations) r.text ∧ r.report = ⟨["net"], ["fs"]⟩ := by
  have hfound : ["net", "fs"].foldlM (findSpan twoRegistrations) ([], .empty) =
      .ok ([⟨44, 85, "net"⟩], ⟨["net"], ["fs"]⟩) := by
    decide +kernel
  have hcut : cutFrom twoRegistrations 0 [⟨44, 85, "net"⟩] = .ok (twoRegistrations.take 44) := by
    decide +kernel
  have h : stripText (String.ofList twoRegistrations) ["net", "fs"] =
      .ok ⟨String.ofList (twoRegistrations.take 44), ⟨["net"], ["fs"]⟩⟩ := by
    simp only [stripText, String.toList_ofList, hfound, bind, Except.bind, List.mergeSort_singleton,
      hcut]
    rfl
  have honce : RegistersOnce ["net", "fs"] (String.ofList twoRegistrations) := by
    refine ⟨?_, by decide⟩
    rw [blocksOf_ofList]
    decide +kernel
  exact ⟨_, h, ((strips_iff h).2 (by decide)).2 honce, rfl⟩

/-- The entry, a module registered between quotes of either kind, one with an escaped name, and the
call that starts the entry. -/
def manyRegistrations : List Char :=
  registration "\"__root\"" ++ registration "\"net\"" ++ registration "'net'" ++
    registration "\"a\\\"b\"" ++ rootRequireCall.toList ++ "\"__root\")\n".toList

/-- **Stripping a text need not be complete, nor spare the entry**: a later registration is left, and
one with an escaped name, and that of the entry is lost. -/
theorem not_strips_manyRegistrations :
    ∃ r, stripText (String.ofList manyRegistrations) ["net", "__root", "a\"b"] = .ok r ∧
      ¬ Strips ["net", "__root", "a\"b"] (String.ofList manyRegistrations) r.text ∧
      (∃ b ∈ blocksOf r.text, denotes "net".toList b = true) ∧
      (∃ b ∈ blocksOf r.text, denotes "a\"b".toList b = true) ∧
      (blocksOf r.text).filter (denotes rootName.toList) = [] ∧
      (blocksOf (String.ofList manyRegistrations)).filter (denotes rootName.toList) ≠ [] := by
  have hfound : ["net", "__root", "a\"b"].foldlM (findSpan manyRegistrations) ([], .empty) =
      .ok ([⟨44, 85, "net"⟩, ⟨0, 44, "__root"⟩], ⟨["net", "__root"], ["a\"b"]⟩) := by
    decide +kernel
  have hsorted : ([⟨44, 85, "net"⟩, ⟨0, 44, "__root"⟩] : List Span).mergeSort
      (fun a b ↦ a.start ≤ b.start) = [⟨0, 44, "__root"⟩, ⟨44, 85, "net"⟩] := by
    simp [List.mergeSort]
  have hcut : cutFrom manyRegistrations 0 [⟨0, 44, "__root"⟩, ⟨44, 85, "net"⟩] =
      .ok (manyRegistrations.drop 85) := by
    decide +kernel
  have hleft : (∃ b ∈ (cut true (manyRegistrations.drop 85)).2, denotes "net".toList b = true) ∧
      (∃ b ∈ (cut true (manyRegistrations.drop 85)).2, denotes "a\"b".toList b = true) ∧
      (cut true (manyRegistrations.drop 85)).2.filter (denotes rootName.toList) = [] ∧
      (cut true manyRegistrations).2.filter (denotes rootName.toList) ≠ [] := by
    decide +kernel
  rw [← blocksOf_ofList, ← blocksOf_ofList] at hleft
  refine ⟨⟨String.ofList (manyRegistrations.drop 85), ⟨["net", "__root"], ["a\"b"]⟩⟩, ?_,
    fun hstrips ↦ ?_, hleft⟩
  · simp only [stripText, String.toList_ofList, hfound, bind, Except.bind, hsorted, hcut]
    rfl
  · obtain ⟨-, -, hlost, hentry⟩ := hleft
    exact hentry (hstrips.entry.symm.trans hlost)

end LuaBundler.Bundle
