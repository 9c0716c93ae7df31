import LuaBundler.Json.Reader

/-!
# JSON values read back

The text of a value is read as the value (`read?_render`): its tokens are cut from the text one by
one (`lex_render`), and they are read as the value, container by container, as long as these are not
nested too deep (`value?_tokens`).

Numbers are left out: not each of them is written as it is read.
-/

namespace LuaBundler.Json

open Text

/-! ### Strings -/

/-- The escape of a control character is read as the character. -/
theorem unicodeEscape?_hexDigit {n : Nat} (h : n < 0x20) (rest : List Char) :
    unicodeEscape? ('0' :: '0' :: hexDigit (n / 16) :: hexDigit (n % 16) :: rest) =
      some (Char.ofNat n, rest) := by
  have hzero : hexValue? '0' = some 0 := by decide
  have hhex : hex4? ('0' :: '0' :: hexDigit (n / 16) :: hexDigit (n % 16) :: rest) =
      some (n, rest) := by
    simp only [hex4?, hzero, hexValue?_hexDigit (show n / 16 < 16 by omega),
      hexValue?_hexDigit (show n % 16 < 16 by omega), Option.bind_eq_bind, Option.bind_some,
      Option.pure_def, Option.some.injEq, Prod.mk.injEq, and_true]
    omega
  simp only [unicodeEscape?, hhex, Option.bind_eq_bind, Option.bind_some]
  rw [if_neg (by omega), if_neg (by omega)]
  rfl

/-- A character in a string is read as itself, escaped or not. -/
theorem stringBody?_escaped (c : Char) (cs : List Char) :
    stringBody? (escaped c ++ cs) =
      (stringBody? cs).map fun (body, after) => (c :: body, after) := by
  have hescape : ∀ e tail, escape? (e :: tail) = some (c, cs) →
      stringBody? ('\\' :: e :: tail) =
        (stringBody? cs).map fun (body, after) => (c :: body, after) := by
    intro e tail h
    rw [stringBody?]
    split
    · rename_i d rest heq
      rw [h, Option.some.injEq, Prod.mk.injEq] at heq
      obtain ⟨rfl, rfl⟩ := heq
      rfl
    · simp_all
  unfold escaped
  split
  iterate 7 exact hescape _ _ rfl
  rename_i hquote hback _ _ _ _ _
  split
  · rename_i hcontrol
    refine hescape 'u' _ ?_
    exact (unicodeEscape?_hexDigit hcontrol cs).trans (by rw [Char.ofNat_toNat])
  · rename_i hcontrol
    rw [List.cons_append, List.nil_append, stringBody?, if_neg hcontrol]
    · exact hquote
    · exact hback

theorem stringBody?_flatMap (cs rest : List Char) :
    stringBody? (cs.flatMap escaped ++ '"' :: rest) = some (cs, rest) := by
  induction cs with
  | nil => rw [List.flatMap_nil, List.nil_append, stringBody?]
  | cons c cs ih =>
    rw [List.flatMap_cons, List.append_assoc, stringBody?_escaped, ih]
    rfl

/-! ### Tokens -/

/-- The text of a token starts with a character that is not white space. -/
theorem exists_render_eq_cons {t : Token} (h : ∀ n, t ≠ .number n) :
    ∃ c cs, t.render = c :: cs ∧ isSpace c = false := by
  cases t with
  | number n => exact absurd rfl (h n)
  | string s => exact ⟨_, _, rfl, by decide⟩
  | bool b => cases b <;> exact ⟨_, _, rfl, by decide⟩
  | _ => exact ⟨_, _, rfl, by decide⟩

/-- The token at the start of a text is the one whose text is there. -/
theorem token?_render {t : Token} (h : ∀ n, t ≠ .number n) (rest : List Char) :
    token? (t.render ++ rest) = some (t, rest) := by
  cases t with
  | number n => exact absurd rfl (h n)
  | string s =>
    simp only [Token.render, List.cons_append, List.append_assoc, List.nil_append, token?,
      stringBody?_flatMap, Option.map_some, String.ofList_toList]
  | bool b => cases b <;> rfl
  | _ => rfl

theorem lexWithin_render {ts : List Token} (h : ∀ n, Token.number n ∉ ts) {steps : Nat}
    (hsteps : (ts.flatMap Token.render).length ≤ steps) :
    lexWithin steps (ts.flatMap Token.render) = some ts := by
  induction ts generalizing steps with
  | nil => cases steps <;> simp [lexWithin]
  | cons t ts ih =>
    have ht : ∀ n, t ≠ .number n := fun n heq ↦ h n (heq ▸ List.mem_cons_self ..)
    obtain ⟨c, cs, hrender, hspace⟩ := exists_render_eq_cons ht
    have htoken := token?_render ht (ts.flatMap Token.render)
    rw [hrender, List.cons_append] at htoken
    rw [List.flatMap_cons, hrender, List.cons_append] at hsteps ⊢
    obtain ⟨steps, rfl⟩ : ∃ k, steps = k + 1 := Nat.exists_eq_succ_of_ne_zero (by
      rintro rfl
      simp at hsteps)
    rw [List.length_cons, List.length_append] at hsteps
    rw [lexWithin, List.dropWhile_cons_of_neg (by simp [hspace])]
    simp only [htoken]
    rw [ih (fun n hn ↦ h n (List.mem_cons_of_mem _ hn)) (by omega), Option.map_some]

/-- **Tokens are cut from their text.** -/
theorem lex_render {ts : List Token} (h : ∀ n, Token.number n ∉ ts) :
    lex (ts.flatMap Token.render) = some ts :=
  lexWithin_render h (Nat.le_refl _)

/-! ### Values -/

mutual

/-- How deep the containers of a value nest. -/
def Value.depth : Value → Nat
  | .array items => itemsDepth items + 1
  | .object members => membersDepth members + 1
  | _ => 0

/-- How deep the containers of items nest. -/
def itemsDepth : List Value → Nat
  | [] => 0
  | v :: vs => max v.depth (itemsDepth vs)

/-- How deep the containers of members nest. -/
def membersDepth : List (String × Value) → Nat
  | [] => 0
  | (_, v) :: ms => max v.depth (membersDepth ms)

end

theorem itemsDepth_le_iff {vs : List Value} {n : Nat} :
    itemsDepth vs ≤ n ↔ ∀ v ∈ vs, v.depth ≤ n := by
  induction vs with
  | nil => simp [itemsDepth]
  | cons v vs ih => rw [itemsDepth, Nat.max_le, ih, List.forall_mem_cons]

theorem membersDepth_le_iff {ms : List (String × Value)} {n : Nat} :
    membersDepth ms ≤ n ↔ ∀ m ∈ ms, m.2.depth ≤ n := by
  induction ms with
  | nil => simp [membersDepth]
  | cons m ms ih =>
    obtain ⟨name, v⟩ := m
    rw [membersDepth, Nat.max_le, ih, List.forall_mem_cons]

theorem itemTokens_eq_map (vs : List Value) : itemTokens vs = vs.map Value.tokens := by
  induction vs with
  | nil => rw [itemTokens, List.map_nil]
  | cons v vs ih => rw [itemTokens, ih, List.map_cons]

theorem memberTokens_eq_map (ms : List (String × Value)) :
    memberTokens ms = ms.map fun m ↦ .string m.1 :: .colon :: m.2.tokens := by
  induction ms with
  | nil => rw [memberTokens, List.map_nil]
  | cons m ms ih =>
    obtain ⟨name, v⟩ := m
    rw [memberTokens, ih, List.map_cons]

/-- The tokens of a value start with one that closes nothing. -/
theorem exists_tokens_eq_cons (v : Value) :
    ∃ t ts, v.tokens = t :: ts ∧ t ≠ .closeArray ∧ t ≠ .closeObject := by
  cases v <;> exact ⟨_, _, by rw [Value.tokens] <;> rfl, by simp, by simp⟩

/-! ### Items -/

section

variable {α : Type} {item : List Token → Option (α × List Token)} {tokens : α → List Token}
  {close : Token} {xs : List α}

/-- Items whose tokens are read one by one are read up to the closing token. -/
theorem itemsUntil_separated (hclose : close ≠ .comma) (hne : xs ≠ [])
    (h : ∀ x ∈ xs, ∀ rest, item (tokens x ++ rest) = some (x, rest)) {steps : Nat}
    (hsteps : xs.length ≤ steps) (rest : List Token) :
    itemsUntil item close steps (separated (xs.map tokens) ++ close :: rest) = some (xs, rest) := by
  induction xs generalizing steps with
  | nil => exact absurd rfl hne
  | cons x xs ih =>
    obtain ⟨steps, rfl⟩ : ∃ k, steps = k + 1 := Nat.exists_eq_succ_of_ne_zero (by
      rintro rfl
      simp at hsteps)
    have hx := h x (List.mem_cons_self ..)
    cases xs with
    | nil =>
      rw [List.map_cons, List.map_nil, separated, itemsUntil, hx]
      cases close <;> simp_all
    | cons y ys =>
      have hrest := ih (by simp) (fun z hz ↦ h z (List.mem_cons_of_mem _ hz))
        (Nat.le_of_succ_le_succ hsteps)
      rw [List.map_cons, List.map_cons, separated, ← List.map_cons, List.append_assoc,
        List.cons_append, itemsUntil, hx]
      simp only [hrest, Option.map_some]

/-- Items start with the first token of the first, and there are at least as many tokens. -/
theorem exists_separated_eq_cons (hne : xs ≠ []) (h : ∀ x, ∃ t ts, tokens x = t :: ts ∧ t ≠ close) :
    ∃ t ts, separated (xs.map tokens) = t :: ts ∧ t ≠ close ∧ xs.length ≤ ts.length + 1 := by
  induction xs with
  | nil => exact absurd rfl hne
  | cons x xs ih =>
    obtain ⟨t, ts, hx, ht⟩ := h x
    cases xs with
    | nil => exact ⟨t, ts, by simp [separated, hx], ht, by simp⟩
    | cons y ys =>
      obtain ⟨u, us, hrest, -, hlength⟩ := ih (by simp)
      refine ⟨t, ts ++ .comma :: u :: us, ?_, ht, ?_⟩
      · rw [List.map_cons, List.map_cons, separated, ← List.map_cons, hrest, hx]
        rfl
      · simp only [List.length_cons, List.length_append] at hlength ⊢
        omega

/-- What is read of items that start with a token is all of them. -/
theorem exists_itemsUntil (hclose : close ≠ .comma) (hne : xs ≠ [])
    (h : ∀ x ∈ xs, ∀ rest, item (tokens x ++ rest) = some (x, rest))
    (hstart : ∀ x, ∃ t ts, tokens x = t :: ts ∧ t ≠ close) (rest : List Token) :
    ∃ t ts, separated (xs.map tokens) ++ close :: rest = t :: ts ∧ t ≠ close ∧
      itemsUntil item close (t :: ts).length (t :: ts) = some (xs, rest) := by
  obtain ⟨t, ts, heq, ht, hlength⟩ := exists_separated_eq_cons hne hstart
  refine ⟨t, ts ++ close :: rest, by rw [heq, List.cons_append], ht, ?_⟩
  rw [← List.cons_append, ← heq]
  refine itemsUntil_separated hclose hne h ?_ rest
  rw [heq]
  simp only [List.length_cons, List.length_append]
  omega

end

/-- An array that is not closed at once is read item by item. -/
theorem value?_openArray {t : Token} (h : t ≠ .closeArray) (depth : Nat) (ts : List Token) :
    value? (depth + 1) (.openArray :: t :: ts) =
      (itemsUntil (value? depth) .closeArray (t :: ts).length (t :: ts)).map
        fun (vs, rest) ↦ (.array vs, rest) := by
  cases t <;> first | rfl | exact absurd rfl h

/-- An object that is not closed at once is read member by member. -/
theorem value?_openObject {t : Token} (h : t ≠ .closeObject) (depth : Nat) (ts : List Token) :
    value? (depth + 1) (.openObject :: t :: ts) =
      (itemsUntil (member? (value? depth)) .closeObject (t :: ts).length (t :: ts)).map
        fun (ms, rest) ↦ (.object ms, rest) := by
  cases t <;> first | rfl | exact absurd rfl h

/-- **The tokens of a value are read as the value.** -/
theorem value?_tokens {v : Value} {depth : Nat} (h : v.depth ≤ depth) (rest : List Token) :
    value? depth (v.tokens ++ rest) = some (v, rest) := by
  -- the recursion of the reader, on the depth that is left, and not that of the value
  induction depth generalizing v rest with
  | zero => cases v <;> simp_all [Value.depth, Value.tokens, value?]
  | succ depth ih =>
    cases v with
    | array items =>
      rw [Value.depth, Nat.succ_le_succ_iff] at h
      rw [Value.tokens, itemTokens_eq_map, List.cons_append, List.cons_append, List.append_assoc,
        List.singleton_append]
      by_cases hne : items = []
      · subst hne
        rfl
      · have hstart : ∀ v : Value, ∃ t ts, v.tokens = t :: ts ∧ t ≠ .closeArray := by
          intro v
          obtain ⟨t, ts, htokens, ht, -⟩ := exists_tokens_eq_cons v
          exact ⟨t, ts, htokens, ht⟩
        obtain ⟨t, ts, heq, ht, hread⟩ := exists_itemsUntil (by simp) hne
          (fun v hv rest ↦ ih (itemsDepth_le_iff.1 h v hv) rest) hstart rest
        rw [heq, value?_openArray ht, hread, Option.map_some]
    | object members =>
      rw [Value.depth, Nat.succ_le_succ_iff] at h
      rw [Value.tokens, memberTokens_eq_map, List.cons_append, List.cons_append, List.append_assoc,
        List.singleton_append]
      by_cases hne : members = []
      · subst hne
        rfl
      · have hmember : ∀ m ∈ members, ∀ rest, member? (value? depth)
            (.string m.1 :: .colon :: m.2.tokens ++ rest) = some (m, rest) := by
          intro m hm rest
          rw [List.cons_append, List.cons_append, member?,
            ih (membersDepth_le_iff.1 h m hm), Option.map_some]
        have hstart : ∀ m : String × Value, ∃ t ts, Token.string m.1 :: .colon :: m.2.tokens =
            t :: ts ∧ t ≠ .closeObject := fun m ↦ ⟨_, _, rfl, by simp⟩
        obtain ⟨t, ts, heq, ht, hread⟩ := exists_itemsUntil (by simp) hne hmember hstart rest
        rw [heq, value?_openObject ht, hread, Option.map_some]
    | _ => simp [Value.tokens, value?]

/-- **The text of a value is read as the value**, if it has no number and is not nested too deep. -/
theorem read?_render {v : Value} (hnumber : ∀ n, Token.number n ∉ v.tokens)
    (hdepth : v.depth ≤ maxDepth) : read? v.render = some v := by
  have hvalue := value?_tokens hdepth []
  rw [List.append_nil] at hvalue
  simp [read?, Value.render, lex_render hnumber, hvalue]

end LuaBundler.Json
