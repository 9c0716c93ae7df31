import LuaBundler.Proofs.Json.RoundTrip
import Mathlib.Data.List.Forall2
import Mathlib.Data.List.TakeWhile

/-!
# Texts that spell a value

What is read of tokens is the value that they spell, and nothing else (`eq_of_value?`). So a text is
read as a value exactly if its tokens are those of the value and it is not nested too deep
(`read?_eq_some_iff`).

Each token but a number has a text of its own, and a number that was read in one text can be written
in others (`Number.isWritable_of_token?`). So an object that is put together from values that were
read has a text as well (`exists_read?`).
-/

namespace LuaBundler.Json

open Text

/-! ### What is read of tokens -/

/-- Items that are read up to a closing token are those that their tokens spell. -/
theorem separated_of_itemsUntil {α : Type} {item : List Token → Option (α × List Token)}
    {tokens : α → List Token} {close : Token} {steps : Nat} {ts rest : List Token} {xs : List α}
    (hitem : ∀ ts x rest, item ts = some (x, rest) → ts = tokens x ++ rest)
    (h : itemsUntil item close steps ts = some (xs, rest)) :
    xs ≠ [] ∧ ts = separated (xs.map tokens) ++ close :: rest ∧
      ∀ x ∈ xs, ∃ ts rest, item ts = some (x, rest) := by
  induction steps generalizing ts xs rest with
  | zero => simp [itemsUntil] at h
  | succ steps ih =>
    rw [itemsUntil] at h
    split at h
    · -- a comma: more items follow
      rename_i x more hx
      obtain ⟨⟨ys, rest'⟩, hys, heq⟩ := Option.map_eq_some_iff.1 h
      obtain ⟨rfl, rfl⟩ := Prod.mk.inj heq
      obtain ⟨hne, hmore, hread⟩ := ih hys
      obtain ⟨y, ys, rfl⟩ := List.exists_cons_of_ne_nil hne
      refine ⟨by simp, ?_, List.forall_mem_cons.2 ⟨⟨_, _, hx⟩, hread⟩⟩
      rw [hitem _ _ _ hx, hmore]
      simp [separated]
    · -- another token: it closes the items
      rename_i x t more _ hx
      split at h
      · rename_i hclose
        simp only [Option.some.injEq, Prod.mk.injEq] at h
        obtain ⟨rfl, rfl⟩ := h
        refine ⟨by simp, ?_, by simpa using ⟨_, _, hx⟩⟩
        rw [hitem _ _ _ hx, hclose]
        simp [separated]
      · simp at h
    · simp at h

/-- A member that is read is the one that its tokens spell. -/
theorem eq_of_member? {value : List Token → Option (Value × List Token)} {ts rest : List Token}
    {m : String × Value} (h : member? value ts = some (m, rest)) :
    ∃ ts', ts = .string m.1 :: .colon :: ts' ∧ value ts' = some (m.2, rest) := by
  unfold member? at h
  split at h
  · obtain ⟨⟨v, rest'⟩, hv, heq⟩ := Option.map_eq_some_iff.1 h
    obtain ⟨rfl, rfl⟩ := Prod.mk.inj heq
    exact ⟨_, rfl, hv⟩
  · simp at h

/-- **What is read of tokens** is the value that they spell. -/
theorem eq_of_value? {depth : Nat} {ts rest : List Token} {v : Value}
    (h : value? depth ts = some (v, rest)) : ts = v.tokens ++ rest ∧ v.depth ≤ depth := by
  -- the recursion of the reader: a container takes one of the depth that is left
  induction depth using Nat.strongRecOn generalizing ts rest v with | ind depth ih =>
  revert h
  fun_cases value? depth ts with
  | case7 depth ts _ =>
    intro h
    have ih := @ih depth (Nat.lt_succ_self depth)
    obtain ⟨⟨vs, rest'⟩, hvs, heq⟩ := Option.map_eq_some_iff.1 h
    obtain ⟨rfl, rfl⟩ := Prod.mk.inj heq
    obtain ⟨-, rfl, hread⟩ := separated_of_itemsUntil (fun _ _ _ hv ↦ (ih hv).1) hvs
    refine ⟨by simp [Value.tokens, itemTokens_eq_map], ?_⟩
    rw [Value.depth, Nat.succ_le_succ_iff, itemsDepth_le_iff]
    intro v hv
    obtain ⟨_, _, hv⟩ := hread v hv
    exact (ih hv).2
  | case8 depth ts _ =>
    intro h
    have ih := @ih depth (Nat.lt_succ_self depth)
    obtain ⟨⟨ms, rest'⟩, hms, heq⟩ := Option.map_eq_some_iff.1 h
    obtain ⟨rfl, rfl⟩ := Prod.mk.inj heq
    have hmember : ∀ ts m rest, member? (value? depth) ts = some (m, rest) →
        ts = .string m.1 :: .colon :: m.2.tokens ++ rest := by
      intro ts m rest hm
      obtain ⟨ts', rfl, hv⟩ := eq_of_member? hm
      rw [(ih hv).1]
      rfl
    obtain ⟨-, rfl, hread⟩ := separated_of_itemsUntil hmember hms
    refine ⟨by simp [Value.tokens, memberTokens_eq_map], ?_⟩
    rw [Value.depth, Nat.succ_le_succ_iff, membersDepth_le_iff]
    intro m hm
    obtain ⟨_, _, hm⟩ := hread m hm
    obtain ⟨_, -, hv⟩ := eq_of_member? hm
    exact (ih hv).2
  | case9 => simp
  | _ =>
    intro h
    -- a value of one token, or a container without items
    simp only [Option.some.injEq, Prod.mk.injEq] at h
    obtain ⟨rfl, rfl⟩ := h
    simp [Value.tokens, itemTokens, memberTokens, separated, Value.depth, itemsDepth, membersDepth]

/-- **A text is read as a value** exactly if it has the tokens of the value and is not nested too
deep. -/
theorem read?_eq_some_iff {s : String} {v : Value} :
    read? s = some v ↔ lex s.toList = some v.tokens ∧ v.depth ≤ maxDepth := by
  unfold read?
  constructor
  · intro h
    obtain ⟨ts, hlex, h⟩ := Option.bind_eq_some_iff.1 h
    split at h
    · rename_i v' hvalue
      obtain rfl := Option.some.inj h
      obtain ⟨htokens, hdepth⟩ := eq_of_value? hvalue
      exact ⟨by rw [hlex, htokens, List.append_nil], hdepth⟩
    · simp at h
  · rintro ⟨hlex, hdepth⟩
    have hvalue := value?_tokens hdepth []
    rw [List.append_nil] at hvalue
    simp [hlex, hvalue]

/-! ### Numbers

What a reader takes of a number it takes again wherever the number cannot go on. -/

theorem digits_append {ds rest : List Char} (hds : ∀ c ∈ ds, c.isDigit = true)
    (hrest : ∀ c ∈ rest.head?, c.isDigit = false) : digits (ds ++ rest) = (ds, rest) := by
  have hstop : rest.takeWhile Char.isDigit = [] ∧ rest.dropWhile Char.isDigit = rest := by
    cases rest with
    | nil => simp
    | cons c rest => simp [hrest c rfl]
  rw [digits, List.takeWhile_append_of_pos hds, List.dropWhile_append_of_pos hds, hstop.1, hstop.2,
    List.append_nil]

/-- Digits that are read are read again before what is no digit. -/
theorem exists_of_digits {cs ds rest : List Char} (h : digits cs = (ds, rest)) :
    cs = ds ++ rest ∧ (∀ c ∈ ds, c.isDigit = true) ∧ ∀ more : List Char,
      (∀ c ∈ more.head?, c.isDigit = false) → digits (ds ++ more) = (ds, more) := by
  obtain ⟨rfl, rfl⟩ := Prod.mk.inj h
  have hds : ∀ c ∈ cs.takeWhile Char.isDigit, c.isDigit = true :=
    fun c hc ↦ List.mem_takeWhile_imp hc
  exact ⟨List.takeWhile_append_dropWhile.symm, hds, fun more ↦ digits_append hds⟩

theorem fraction?_of_ne {cs : List Char} (h : ∀ c ∈ cs.head?, c ≠ '.') :
    fraction? cs = some ([], cs) := by
  unfold fraction?
  split
  · simp at h
  · rfl

/-- A fraction that is read is read again before what is neither a digit nor a point. -/
theorem exists_of_fraction? {cs part rest : List Char} (h : fraction? cs = some (part, rest)) :
    ∃ text, cs = text ++ rest ∧ (∀ c ∈ text.head?, c = '.') ∧ ∀ more : List Char,
      (∀ c ∈ more.head?, c.isDigit = false ∧ c ≠ '.') →
        fraction? (text ++ more) = some (part, more) := by
  unfold fraction? at h
  split at h
  · rename_i cs
    cases hcs : digits cs with
    | mk ds rest' =>
      obtain ⟨rfl, -, hagain⟩ := exists_of_digits hcs
      rw [hcs] at h
      cases ds with
      | nil => simp at h
      | cons d ds =>
        obtain ⟨rfl, rfl⟩ := Prod.mk.inj (Option.some.inj h)
        refine ⟨'.' :: d :: ds, by simp, by simp, fun more hmore ↦ ?_⟩
        rw [List.cons_append, fraction?, hagain more fun c hc ↦ (hmore c hc).1]
  · obtain ⟨rfl, rfl⟩ := Prod.mk.inj (Option.some.inj h)
    exact ⟨[], rfl, by simp, fun more hmore ↦ fraction?_of_ne fun c hc ↦ (hmore c hc).2⟩

/-- The digits of an exponent that are read are read again before what is no digit. -/
theorem exists_of_exponentDigits? {cs rest : List Char} {n : Nat}
    (h : exponentDigits? cs = some (n, rest)) :
    ∃ d ds, cs = d :: ds ++ rest ∧ d.isDigit = true ∧ ∀ more : List Char,
      (∀ c ∈ more.head?, c.isDigit = false) →
        exponentDigits? (d :: ds ++ more) = some (n, more) := by
  unfold exponentDigits? at h
  cases hcs : digits cs with
  | mk ds rest' =>
    obtain ⟨rfl, hdigit, hagain⟩ := exists_of_digits hcs
    rw [hcs] at h
    cases ds with
    | nil => simp at h
    | cons d ds =>
      obtain ⟨rfl, rfl⟩ := Prod.mk.inj (Option.some.inj h)
      refine ⟨d, ds, rfl, hdigit d (by simp), fun more hmore ↦ ?_⟩
      rw [exponentDigits?, hagain more hmore]

theorem exponent?_of_ne {cs : List Char} (h : ∀ c ∈ cs.head?, c ≠ 'e' ∧ c ≠ 'E') :
    exponent? cs = some (none, cs) := by
  unfold exponent?
  split
  · rename_i c cs
    rw [if_neg (by simpa using h c (by simp))]
  · rfl

/-- An exponent that is read is read again before what is neither a digit nor a letter `e`. -/
theorem exists_of_exponent? {cs rest : List Char} {power : Option Int}
    (h : exponent? cs = some (power, rest)) :
    ∃ text, cs = text ++ rest ∧ (∀ c ∈ text.head?, c = 'e' ∨ c = 'E') ∧ ∀ more : List Char,
      (∀ c ∈ more.head?, c.isDigit = false ∧ c ≠ 'e' ∧ c ≠ 'E') →
        exponent? (text ++ more) = some (power, more) := by
  unfold exponent? at h
  split at h
  · rename_i c cs
    split at h
    · rename_i hc
      split at h <;> obtain ⟨⟨n, rest'⟩, hn, heq⟩ := Option.map_eq_some_iff.1 h <;>
        obtain ⟨rfl, rfl⟩ := Prod.mk.inj heq <;>
        obtain ⟨d, ds, rfl, hd, hagain⟩ := exists_of_exponentDigits? hn
      · refine ⟨c :: '-' :: d :: ds, by simp, by simpa using hc, fun more hmore ↦ ?_⟩
        rw [List.cons_append, List.cons_append, exponent?, if_pos hc]
        simp only [hagain more fun c hc ↦ (hmore c hc).1, Option.map_some]
      · refine ⟨c :: '+' :: d :: ds, by simp, by simpa using hc, fun more hmore ↦ ?_⟩
        rw [List.cons_append, List.cons_append, exponent?, if_pos hc]
        simp only [hagain more fun c hc ↦ (hmore c hc).1, Option.map_some]
      · refine ⟨c :: d :: ds, by simp, by simpa using hc, fun more hmore ↦ ?_⟩
        rw [List.cons_append, exponent?, if_pos hc]
        · rw [hagain more fun c hc ↦ (hmore c hc).1, Option.map_some]
        · intro _ heq
          rw [(List.cons.inj heq).1] at hd
          simp at hd
        · intro _ heq
          rw [(List.cons.inj heq).1] at hd
          simp at hd
    · obtain ⟨rfl, rfl⟩ := Prod.mk.inj (Option.some.inj h)
      exact ⟨[], rfl, by simp, fun more hmore ↦ exponent?_of_ne fun c hc ↦ (hmore c hc).2⟩
  · obtain ⟨rfl, rfl⟩ := Prod.mk.inj (Option.some.inj h)
    exact ⟨[], rfl, by simp, fun more hmore ↦ exponent?_of_ne fun c hc ↦ (hmore c hc).2⟩

/-- What starts a text that is put together is what starts the first part, or the second. -/
theorem forall_mem_head?_append {P : Char → Prop} {as bs : List Char} (ha : ∀ c ∈ as.head?, P c)
    (hb : ∀ c ∈ bs.head?, P c) : ∀ c ∈ (as ++ bs).head?, P c := by
  cases as with
  | nil => exact hb
  | cons a as => exact ha

/-- A number without its sign that is read is read again before a space. -/
theorem exists_of_unsigned? {negative : Bool} {cs rest : List Char} {n : Number}
    (h : unsigned? negative cs = some (n, rest)) :
    ∃ d text, d.isDigit = true ∧ ∀ more, unsigned? negative (d :: text ++ ' ' :: more) =
      some (n, ' ' :: more) := by
  unfold unsigned? at h
  cases hwhole : digits cs with
  | mk whole rest₁ =>
    obtain ⟨rfl, hdigit, hagain⟩ := exists_of_digits hwhole
    simp only [hwhole] at h
    split at h
    · simp at h
    rename_i hshape
    obtain ⟨⟨part, rest₂⟩, hpart, hrest⟩ := Option.bind_eq_some_iff.1 h
    obtain ⟨⟨power, rest₃⟩, hpower, hread⟩ := Option.bind_eq_some_iff.1 hrest
    clear h hrest
    obtain ⟨fraction, rfl, hpoint, hpartagain⟩ := exists_of_fraction? hpart
    obtain ⟨exponent, rfl, hletter, hpoweragain⟩ := exists_of_exponent? hpower
    split at hread
    · rename_i hfinite
      obtain ⟨rfl, rfl⟩ := Prod.mk.inj (Option.some.inj hread)
      obtain ⟨d, whole, rfl⟩ := List.exists_cons_of_ne_nil (not_or.1 hshape).1
      refine ⟨d, whole ++ fraction ++ exponent, hdigit d (by simp), fun more ↦ ?_⟩
      have hpower' := hpoweragain (' ' :: more) (by simp)
      have hpart' := hpartagain (exponent ++ ' ' :: more) <|
        forall_mem_head?_append (fun c hc ↦ by rcases hletter c hc with rfl | rfl <;> decide)
          (by simp)
      have hwhole' := hagain (fraction ++ (exponent ++ ' ' :: more)) <|
        forall_mem_head?_append (fun c hc ↦ by rw [hpoint c hc]; decide) <|
          forall_mem_head?_append (fun c hc ↦ by rcases hletter c hc with rfl | rfl <;> decide)
            (by simp)
      have htext : d :: (whole ++ fraction ++ exponent) ++ ' ' :: more =
          d :: whole ++ (fraction ++ (exponent ++ ' ' :: more)) := by simp
      rw [htext, unsigned?]
      simp only [hwhole', hshape, hpart', hpower', if_false, hfinite, if_true, Option.bind_eq_bind,
        Option.bind_some]
    · simp at hread

/-! ### Tokens -/

/-- A text that is read as a token wherever it stands, perhaps with blanks left of it. -/
structure Token.IsSpelledBy (t : Token) (cs : List Char) : Prop where
  starts : ∀ c ∈ cs.head?, isSpace c = false
  read : ∀ rest, ∃ blanks, (∀ c ∈ blanks, isSpace c = true) ∧ blanks.length < cs.length ∧
    token? (cs ++ rest) = some (t, blanks ++ rest)

theorem Token.isSpelledBy_render {t : Token} (h : ∀ n, t ≠ .number n) : t.IsSpelledBy t.render := by
  obtain ⟨c, cs, hrender, hspace⟩ := exists_render_eq_cons h
  refine ⟨by simp [hrender, hspace], fun rest ↦ ⟨[], by simp, by simp [hrender], ?_⟩⟩
  exact token?_render h rest

/-- Whether a number can be written. -/
def Number.IsWritable (n : Number) : Prop :=
  ∃ cs, (Token.number n).IsSpelledBy cs

/-- A token that is read as a number is a number's text. -/
theorem number?_of_token? {cs rest : List Char} {n : Number}
    (h : token? cs = some (.number n, rest)) : number? cs = some (n, rest) := by
  unfold token? at h
  split at h
  case h_12 => simpa [Option.map_eq_some_iff] using h
  all_goals simp [word?] at h

theorem token?_of_number {c : Char} (h : c.isDigit = true ∨ c = '-') (cs : List Char) :
    token? (c :: cs) = (number? (c :: cs)).map fun (n, rest) ↦ (.number n, rest) := by
  unfold token?
  split <;> simp_all

theorem number?_of_isDigit {d : Char} (h : d.isDigit = true) (cs : List Char) :
    number? (d :: cs) = unsigned? false (d :: cs) := by
  unfold number?
  split <;> simp_all

theorem isSpace_of_isDigit {d : Char} (h : d.isDigit = true) : isSpace d = false := by
  refine Bool.eq_false_iff.2 fun hspace ↦ ?_
  simp only [isSpace, Bool.or_eq_true, decide_eq_true_eq] at hspace
  obtain ((rfl | rfl) | rfl) | rfl := hspace <;> simp at h

/-- **A number that is read can be written**, with a space right of it. -/
theorem Number.isWritable_of_token? {cs rest : List Char} {n : Number}
    (h : token? cs = some (.number n, rest)) : n.IsWritable := by
  have hn := number?_of_token? h
  unfold number? at hn
  split at hn
  · obtain ⟨d, text, -, hagain⟩ := exists_of_unsigned? hn
    refine ⟨'-' :: (d :: text ++ [' ']), by simp [isSpace], fun rest ↦ ⟨[' '], by simp [isSpace],
      by simp, ?_⟩⟩
    rw [List.cons_append, token?_of_number (.inr rfl), number?, List.append_assoc,
      List.singleton_append, hagain, Option.map_some]
  · obtain ⟨d, text, hd, hagain⟩ := exists_of_unsigned? hn
    refine ⟨d :: text ++ [' '], by simp [isSpace_of_isDigit hd], fun rest ↦ ⟨[' '],
      by simp [isSpace], by simp, ?_⟩⟩
    rw [List.append_assoc, List.singleton_append, List.cons_append,
      token?_of_number (.inl hd), number?_of_isDigit hd, ← List.cons_append, hagain,
      Option.map_some]

/-! ### Texts -/

theorem Number.isWritable_of_lexWithin {steps : Nat} {cs : List Char} {ts : List Token}
    (h : lexWithin steps cs = some ts) {n : Number} (hn : Token.number n ∈ ts) : n.IsWritable := by
  induction steps generalizing cs ts with
  | zero =>
    rw [lexWithin] at h
    split at h <;> simp_all
  | succ steps ih =>
    rw [lexWithin] at h
    split at h
    · obtain rfl := Option.some.inj h
      simp at hn
    · split at h
      · rename_i htoken
        obtain ⟨ts, hts, rfl⟩ := Option.map_eq_some_iff.1 h
        obtain rfl | hn := List.mem_cons.1 hn
        · exact isWritable_of_token? htoken
        · exact ih hts hn
      · simp at h

/-- **Texts of tokens one after another** are cut into the tokens, whatever blanks are before. -/
theorem lexWithin_flatten {ts : List Token} {css : List (List Char)}
    (h : List.Forall₂ Token.IsSpelledBy ts css) {blanks : List Char}
    (hblanks : ∀ c ∈ blanks, isSpace c = true) {steps : Nat}
    (hsteps : (blanks ++ css.flatten).length ≤ steps) :
    lexWithin steps (blanks ++ css.flatten) = some ts := by
  induction h generalizing blanks steps with
  | nil =>
    have hdrop : blanks.dropWhile isSpace = [] := List.dropWhile_eq_nil_iff.2 hblanks
    cases steps with
    | zero => simpa [lexWithin] using hblanks
    | succ steps => simp [lexWithin, hdrop]
  | @cons t cs ts css ht _ ih =>
    obtain ⟨after, hafter, hlength, hread⟩ := ht.read css.flatten
    cases cs with
    | nil => simp at hlength
    | cons c cs =>
      have hc : isSpace c = false := ht.starts c rfl
      rw [List.flatten_cons] at hsteps ⊢
      obtain ⟨steps, rfl⟩ : ∃ k, steps = k + 1 := Nat.exists_eq_succ_of_ne_zero (by
        rintro rfl
        simp at hsteps)
      have hless : (after ++ css.flatten).length ≤ steps := by
        simp only [List.length_append, List.length_cons] at hsteps hlength ⊢
        omega
      rw [lexWithin, List.dropWhile_append_of_pos hblanks, List.cons_append,
        List.dropWhile_cons_of_neg (by simp [hc])]
      rw [List.cons_append] at hread
      simp only [hread]
      rw [ih hafter hless, Option.map_some]

/-- Whether the numbers in a value can be written. -/
def Value.IsWritable (v : Value) : Prop :=
  ∀ n, Token.number n ∈ v.tokens → n.IsWritable

theorem Value.isWritable_of_read? {s : String} {v : Value} (h : read? s = some v) :
    v.IsWritable :=
  fun _ ↦ Number.isWritable_of_lexWithin (read?_eq_some_iff.1 h).1

theorem mem_separated {t : Token} (h : t ≠ .comma) {tss : List (List Token)} :
    t ∈ separated tss ↔ ∃ ts ∈ tss, t ∈ ts := by
  fun_induction separated tss with
  | case1 => simp
  | case2 ts => simp
  | case3 ts us rest ih => simp_all

theorem Value.isWritable_array {vs : List Value} :
    (array vs).IsWritable ↔ ∀ v ∈ vs, v.IsWritable := by
  have hmem : ∀ n, Token.number n ∈ (array vs).tokens ↔ ∃ v ∈ vs, .number n ∈ v.tokens := by
    simp [tokens, itemTokens_eq_map, mem_separated]
  simp only [IsWritable, hmem]
  constructor
  · intro h v hv n hn
    exact h n ⟨v, hv, hn⟩
  · rintro h n ⟨v, hv, hn⟩
    exact h v hv n hn

theorem Value.isWritable_object {ms : List (String × Value)} :
    (object ms).IsWritable ↔ ∀ m ∈ ms, m.2.IsWritable := by
  have hmem : ∀ n, Token.number n ∈ (object ms).tokens ↔ ∃ m ∈ ms, .number n ∈ m.2.tokens := by
    simp [tokens, memberTokens_eq_map, mem_separated]
  simp only [IsWritable, hmem]
  constructor
  · intro h m hm n hn
    exact h n ⟨m, hm, hn⟩
  · rintro h n ⟨m, hm, hn⟩
    exact h m hm n hn

/-- A token has a text if its number can be written. -/
theorem Token.exists_isSpelledBy {t : Token} (h : ∀ n, t = .number n → n.IsWritable) :
    ∃ cs, t.IsSpelledBy cs := by
  by_cases ht : ∃ n, t = .number n
  · obtain ⟨n, rfl⟩ := ht
    exact h n rfl
  · exact ⟨_, isSpelledBy_render (not_exists.1 ht)⟩

theorem Token.exists_forall₂_isSpelledBy {ts : List Token}
    (h : ∀ n, Token.number n ∈ ts → n.IsWritable) : ∃ css, List.Forall₂ IsSpelledBy ts css := by
  induction ts with
  | nil => exact ⟨[], .nil⟩
  | cons t ts ih =>
    obtain ⟨cs, hcs⟩ := exists_isSpelledBy (t := t) fun n hn ↦ h n (by simp [hn])
    obtain ⟨css, hcss⟩ := ih fun n hn ↦ h n (List.mem_cons_of_mem _ hn)
    exact ⟨cs :: css, .cons hcs hcss⟩

/-- **Each object has a text**, from brace to brace, if its numbers can be written and it is not
nested too deep. -/
theorem exists_read? {ms : List (String × Value)} (h : (Value.object ms).IsWritable)
    (hdepth : (Value.object ms).depth ≤ maxDepth) :
    ∃ cs, read? (String.ofList ('\x7b' :: cs ++ ['\x7d'])) = some (.object ms) := by
  obtain ⟨css, hcss⟩ : ∃ css, List.Forall₂ Token.IsSpelledBy (separated (memberTokens ms)) css :=
    Token.exists_forall₂_isSpelledBy fun n hn ↦ h n (by simp [Value.tokens, hn])
  have hopen := Token.isSpelledBy_render (t := .openObject) (by simp)
  have hclose := Token.isSpelledBy_render (t := .closeObject) (by simp)
  have hnone : ∀ c ∈ ([] : List Char), isSpace c = true := by simp
  have hlex := lexWithin_flatten (List.rel_append (.cons hopen hcss) (.cons hclose .nil)) hnone
    (Nat.le_refl _)
  refine ⟨css.flatten, read?_eq_some_iff.2 ⟨?_, hdepth⟩⟩
  rw [String.toList_ofList, Value.tokens, ← hlex]
  simp [lex, Token.render]

end LuaBundler.Json
