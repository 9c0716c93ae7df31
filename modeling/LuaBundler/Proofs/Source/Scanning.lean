import LuaBundler.Proofs.Source.Masking
import LuaBundler.Proofs.Text.Utf8
import Mathlib.Data.List.TakeWhile

/-!
# Scanning bytes

The segments of a text can be found in its bytes, by offsets and without decoding a character
(`scan?`). Offsets are checked: the scan fails if it would read from beyond the end, blank a range
that does not lie in the text, or stay where it is.

It never fails, and it comes to the masked text and to the ranges of the string literals
(`scan?_encode`). The delimiters are all of ASCII, and the bytes of another character are passed over
like as many characters of code (`itemAt?_of_le`), also where an escape has taken the first of them
(`quotedEnd_escape`).
-/

namespace LuaBundler.Source

open Text

/-! ### The scan -/

/-- The bytes from an offset on, if the offset is in bounds. -/
def suffixAt? (bytes : Bytes) (i : Nat) : Option Bytes :=
  if i ≤ bytes.length then some (bytes.drop i) else none

/-- The level of the long bracket that opens at an offset, if one does. -/
def levelAt? (bytes : Bytes) (start : Nat) : Option (Option Nat) :=
  if bytes[start]? = some '['.toUInt8 then
    (suffixAt? bytes (start + 1)).map fun rest ↦
      let level := (rest.takeWhile (· = '='.toUInt8)).length
      if bytes[start + 1 + level]? = some '['.toUInt8 then some level else none
  else some none

/-- Where a pattern occurs first. -/
def indexOf? (pattern : Bytes) : Bytes → Option Nat
  | [] => none
  | b :: bs =>
    if pattern.isPrefixOf (b :: bs) then some 0 else (indexOf? pattern bs).map (· + 1)

/-- Where the long bracket that opens at an offset ends. -/
def bracketEnd? (bytes : Bytes) (start level : Nat) : Option Nat :=
  let body := start + level + 2
  let close := encode (closeBracket level)
  (suffixAt? bytes (min body bytes.length)).map fun rest ↦
    (indexOf? close rest).elim bytes.length fun offset ↦ body + offset + close.length

/-- Where a short literal ends that is read from an offset on. -/
def quotedEnd (bytes : Bytes) (quote : UInt8) (i : Nat) : Nat :=
  if h : i < bytes.length then
    if bytes[i] = '\\'.toUInt8 then quotedEnd bytes quote (i + 2)
    else if bytes[i] = '\n'.toUInt8 then i
    else if bytes[i] = quote then i + 1
    else quotedEnd bytes quote (i + 1)
  else bytes.length
termination_by bytes.length - i

/-- Where the line of an offset ends. -/
def lineEnd? (bytes : Bytes) (i : Nat) : Option Nat :=
  (suffixAt? bytes i).map fun rest ↦
    (rest.findIdx? (· = '\n'.toUInt8)).elim bytes.length fun offset ↦ i + offset

/-- What stands at an offset: a comment or a string literal, with its end, or a byte of code. -/
inductive Item where
  | comment (stop : Nat)
  | literal (stop : Nat)
  | code
  deriving DecidableEq

/-- What stands at an offset. -/
def itemAt? (bytes : Bytes) (i : Nat) : Option Item :=
  bytes[i]?.bind fun b ↦
    if b = '-'.toUInt8 ∧ bytes[i + 1]? = some '-'.toUInt8 then
      (levelAt? bytes (i + 2)).bind fun
        | some level => (bracketEnd? bytes (i + 2) level).map .comment
        | none => (lineEnd? bytes i).map .comment
    else if b = '"'.toUInt8 ∨ b = '\''.toUInt8 then some (.literal (quotedEnd bytes b (i + 1)))
    else if b = '['.toUInt8 then
      (levelAt? bytes i).bind fun
        | some level => (bracketEnd? bytes i level).map .literal
        | none => some .code
    else some .code

/-- A byte of a comment made blank; line feeds stay. -/
def blankedByte (b : UInt8) : UInt8 :=
  if b = '\n'.toUInt8 then b else ' '.toUInt8

/-- A range of bytes made blank, if it is in bounds. -/
def blankRange? (bytes : Bytes) (start stop : Nat) : Option Bytes :=
  if start ≤ stop ∧ stop ≤ bytes.length then
    some (bytes.take start ++ ((bytes.drop start).take (stop - start)).map blankedByte ++
      bytes.drop stop)
  else none

/-- Scans bytes from an offset on, with what is masked so far and the ranges found. -/
def scanFrom? (bytes : Bytes) (i : Nat) (masked : Bytes) (strings : List (Nat × Nat)) :
    Option (Bytes × List (Nat × Nat)) :=
  if i < bytes.length then
    match itemAt? bytes i with
    | some (.comment stop) =>
      if i < stop then
        (blankRange? masked i stop).bind fun masked ↦ scanFrom? bytes stop masked strings
      else none
    | some (.literal stop) =>
      if i < stop then scanFrom? bytes stop masked (strings ++ [(i, stop)]) else none
    | some .code => scanFrom? bytes (i + 1) masked strings
    | none => none
  else some (masked, strings)
termination_by bytes.length - i

/-- The offsets at which lines start. -/
def lineOffsets (bytes : Bytes) : List Nat :=
  0 :: (bytes.zipIdx.filter (·.1 = '\n'.toUInt8)).map (·.2 + 1)

/-- What a scan comes to: the masked bytes, the ranges of string literals, and the starts of lines. -/
structure Scan where
  masked : Bytes
  strings : List (Nat × Nat)
  lines : List Nat
  deriving DecidableEq

/-- Scans bytes. -/
def scan? (bytes : Bytes) : Option Scan :=
  (scanFrom? bytes 0 bytes []).map fun (masked, strings) ↦ ⟨masked, strings, lineOffsets bytes⟩

/-! ### Parts -/

variable {before bs : Bytes} {cs : List Char}

theorem suffixAt?_append (before bs : Bytes) :
    suffixAt? (before ++ bs) before.length = some bs := by
  rw [suffixAt?, if_pos (by simp), List.drop_left]

/-- A character of ASCII is one byte more of what is before. -/
theorem append_encode_cons {a : Char} (ha : IsAscii a) (before : Bytes) (cs : List Char) :
    before ++ encode (a :: cs) = (before ++ [a.toUInt8]) ++ encode cs := by
  rw [encode_cons_of_isAscii ha, List.append_assoc, List.singleton_append]

theorem getElem?_append_encode {a : Char} (ha : IsAscii a) (before : Bytes) (cs : List Char) :
    (before ++ encode cs)[before.length]? = some a.toUInt8 ↔ cs.head? = some a := by
  rw [List.getElem?_append_right (Nat.le_refl _), Nat.sub_self, ← List.head?_eq_getElem?,
    head?_encode_eq_iff ha]

/-- The level of a long bracket is read off its bytes. -/
theorem levelAt?_encode (before : Bytes) (cs : List Char) :
    levelAt? (before ++ encode cs) before.length = some (bracketLevel? cs) := by
  have hopen : IsAscii '[' := by decide
  have hequals : IsAscii '=' := by decide
  by_cases hhead : cs.head? = some '['
  · obtain ⟨cs, rfl⟩ := List.head?_eq_some_iff.1 hhead
    have hrest := suffixAt?_append (before ++ ['['.toUInt8]) (encode cs)
    rw [← append_encode_cons hopen, List.length_append, List.length_singleton] at hrest
    have htake := (takeWhile_eq_encode hequals cs).1
    have hlength : (encode (cs.takeWhile (· = '='))).length = (cs.takeWhile (· = '=')).length := by
      refine length_encode_of_isAscii fun c hc ↦ ?_
      obtain rfl : c = '=' := by simpa using List.mem_takeWhile_imp hc
      exact hequals
    have hclose : (before ++ encode ('[' :: cs))[before.length + 1 +
        (cs.takeWhile (· = '=')).length]? = some '['.toUInt8 ↔
          (cs.dropWhile (· = '=')).head? = some '[' := by
      have hall : before ++ encode ('[' :: cs) = (before ++ '['.toUInt8 ::
          encode (cs.takeWhile (· = '='))) ++ encode (cs.dropWhile (· = '=')) := by
        rw [List.append_assoc, List.cons_append, ← encode_append, List.takeWhile_append_dropWhile,
          encode_cons_of_isAscii hopen]
      have hlen : before.length + 1 + (cs.takeWhile (· = '=')).length =
          (before ++ '['.toUInt8 :: encode (cs.takeWhile (· = '='))).length := by
        rw [List.length_append, List.length_cons, hlength]
        omega
      rw [hall, hlen, getElem?_append_encode hopen]
    rw [levelAt?, if_pos ((getElem?_append_encode hopen ..).2 hhead), hrest, Option.map_some]
    simp only [htake, hlength, hclose, bracketLevel?]
    cases hdrop : cs.dropWhile (· = '=') with
    | nil => simp
    | cons d ds =>
      by_cases hd : d = '['
      · simp [hd]
      · simp [hd]
  · rw [levelAt?, if_neg (by rwa [getElem?_append_encode hopen])]
    unfold bracketLevel?
    split
    · simp at hhead
    · rfl

/-- Bytes that do not start a pattern are passed over. -/
theorem indexOf?_append {pattern : Bytes} {p : UInt8} (hp : pattern.head? = some p)
    (hbs : p ∉ bs) (rest : Bytes) :
    indexOf? pattern (bs ++ rest) = (indexOf? pattern rest).map (· + bs.length) := by
  obtain ⟨pattern, rfl⟩ := List.head?_eq_some_iff.1 hp
  induction bs with
  | nil => simp
  | cons b bs ih =>
    rw [List.mem_cons, not_or] at hbs
    have hprefix : (p :: pattern).isPrefixOf (b :: (bs ++ rest)) = false := by
      simp [List.isPrefixOf, hbs.1]
    rw [List.cons_append, indexOf?, hprefix, if_neg (by simp), ih hbs.2, Option.map_map]
    simp only [Function.comp_def, List.length_cons]
    rfl

/-- A text is cut through its first occurrence of a delimiter where its bytes are. -/
theorem indexOf?_encode {close : List Char} (hne : close ≠ []) (h : ∀ c ∈ close, IsAscii c)
    (cs : List Char) :
    (indexOf? (encode close) (encode cs)).elim (encode cs).length
        (fun offset ↦ offset + (encode close).length) =
      (encode (splitThrough close cs).1).length := by
  obtain ⟨p, close, rfl⟩ := List.exists_cons_of_ne_nil hne
  have hp := h p (List.mem_cons_self ..)
  have hhead : (encode (p :: close)).head? = some p.toUInt8 := by
    rw [encode_cons_of_isAscii hp, List.head?_cons]
  induction cs with
  | nil => rfl
  | cons c cs ih =>
    have hmatch := isPrefixOf_encode h (c :: cs)
    by_cases hprefix : (p :: close).isPrefixOf (c :: cs) = true
    · have htake : (c :: cs).take (p :: close).length = p :: close :=
        (List.prefix_iff_eq_take.1 (List.isPrefixOf_iff_prefix.1 hprefix)).symm
      obtain ⟨b, bs, hbytes⟩ : ∃ b bs, encode (c :: cs) = b :: bs :=
        List.exists_cons_of_ne_nil (by simp [encode_cons])
      have hindex : indexOf? (encode (p :: close)) (encode (c :: cs)) = some 0 := by
        rw [hbytes, indexOf?, ← hbytes, hmatch, if_pos hprefix]
      rw [splitThrough, if_pos hprefix, htake, hindex, Option.elim_some, Nat.zero_add]
    · -- the delimiter starts at no byte of the character
      have hskip : indexOf? (encode (p :: close)) (encode (c :: cs)) =
          (indexOf? (encode (p :: close)) (encode cs)).map
            (· + (String.utf8EncodeChar c).length) := by
        by_cases hc : c = p
        · subst hc
          rw [encode_cons_of_isAscii hp cs] at hmatch ⊢
          rw [indexOf?, hmatch, if_neg hprefix, utf8EncodeChar_of_isAscii hp]
          rfl
        · rw [encode_cons c]
          exact indexOf?_append hhead (fun hmem ↦ hc (eq_of_mem_utf8EncodeChar hp hmem)) _
      rw [splitThrough, if_neg hprefix, hskip, encode_cons c, encode_cons c, List.length_append,
        List.length_append, ← ih]
      cases indexOf? (encode (p :: close)) (encode cs) with
      | none => rfl
      | some offset =>
        simp only [Option.map_some, Option.elim_some]
        omega

/-- The opening long bracket of a level. -/
def openBracket (level : Nat) : List Char :=
  '[' :: (List.replicate level '=' ++ ['['])

theorem length_openBracket (level : Nat) : (openBracket level).length = level + 2 := by
  simp [openBracket]

theorem length_encode_openBracket (level : Nat) :
    (encode (openBracket level)).length = level + 2 := by
  rw [length_encode_of_isAscii, length_openBracket]
  intro c hc
  simp only [openBracket, List.mem_cons, List.mem_append, List.mem_replicate, List.not_mem_nil,
    or_false] at hc
  rcases hc with rfl | ⟨-, rfl⟩ | rfl <;> decide

theorem isAscii_of_mem_closeBracket {level : Nat} {c : Char} (h : c ∈ closeBracket level) :
    IsAscii c := by
  simp only [closeBracket, List.cons_append, List.mem_cons, List.mem_append, List.mem_replicate,
    List.not_mem_nil, or_false] at h
  rcases h with rfl | ⟨-, rfl⟩ | rfl <;> decide

/-- A long bracket opens with its level. -/
theorem eq_of_bracketLevel? {level : Nat} (h : bracketLevel? cs = some level) :
    ∃ rest, cs = openBracket level ++ rest := by
  unfold bracketLevel? at h
  split at h
  · rename_i cs
    split at h
    · rename_i rest hdrop
      obtain rfl : (cs.takeWhile (· = '=')).length = level := Option.some.inj h
      have htake : cs.takeWhile (· = '=') = List.replicate (cs.takeWhile (· = '=')).length '=' :=
        List.eq_replicate_iff.2 ⟨rfl, fun c hc ↦ by simpa using List.mem_takeWhile_imp hc⟩
      refine ⟨rest, ?_⟩
      rw [openBracket, ← htake, List.cons_append, List.append_assoc, List.singleton_append, ← hdrop,
        List.takeWhile_append_dropWhile]
    · simp at h
  · simp at h

theorem bracketLevel?_openBracket (level : Nat) (cs : List Char) :
    bracketLevel? (openBracket level ++ cs) = some level := by
  have hequals : ∀ c ∈ List.replicate level '=', decide (c = '=') = true := by
    intro c hc
    exact decide_eq_true (List.eq_of_mem_replicate hc)
  have htake : (List.replicate level '=' ++ '[' :: cs).takeWhile (· = '=') =
      List.replicate level '=' := by
    rw [List.takeWhile_append_of_pos hequals, List.takeWhile_cons_of_neg (by decide),
      List.append_nil]
  have hdrop : (List.replicate level '=' ++ '[' :: cs).dropWhile (· = '=') = '[' :: cs := by
    rw [List.dropWhile_append_of_pos hequals, List.dropWhile_cons_of_neg (by decide)]
  rw [openBracket, List.cons_append, List.append_assoc, List.singleton_append]
  simp only [bracketLevel?, hdrop, htake, List.length_replicate]

theorem splitBracket_openBracket (level : Nat) (cs : List Char) :
    splitBracket level (openBracket level ++ cs) =
      (openBracket level ++ (splitThrough (closeBracket level) cs).1,
        (splitThrough (closeBracket level) cs).2) := by
  rw [splitBracket, ← length_openBracket, List.take_left, List.drop_left]

/-- The end of a long bracket is found in its bytes. -/
theorem bracketEnd?_encode {level : Nat} (before : Bytes) (h : bracketLevel? cs = some level) :
    bracketEnd? (before ++ encode cs) before.length level =
      some (before.length + (encode (splitBracket level cs).1).length) := by
  obtain ⟨rest, rfl⟩ := eq_of_bracketLevel? h
  have hlength := length_encode_openBracket level
  have hsuffix : suffixAt? (before ++ encode (openBracket level ++ rest))
      (min (before.length + level + 2) (before ++ encode (openBracket level ++ rest)).length) =
        some (encode rest) := by
    have hmin : min (before.length + level + 2)
        (before ++ encode (openBracket level ++ rest)).length =
          (before ++ encode (openBracket level)).length := by
      rw [encode_append, List.length_append, List.length_append, List.length_append, hlength]
      omega
    rw [hmin, encode_append, ← List.append_assoc, suffixAt?_append]
  have hne : closeBracket level ≠ [] := by simp [closeBracket]
  have hthrough := indexOf?_encode hne (fun _ ↦ isAscii_of_mem_closeBracket) rest
  rw [bracketEnd?, hsuffix, splitBracket_openBracket, Option.map_some, Option.some.injEq,
    encode_append, encode_append, List.length_append, List.length_append, List.length_append,
    hlength, ← hthrough]
  cases indexOf? (encode (closeBracket level)) (encode rest) with
  | none => rfl
  | some offset =>
    simp only [Option.elim_some]
    omega

/-- Where a line ends is found in its bytes. -/
theorem lineEnd?_encode (before : Bytes) (cs : List Char) :
    lineEnd? (before ++ encode cs) before.length =
      some (before.length + (encode (cs.takeWhile (· ≠ '\n'))).length) := by
  have hlength : ((encode cs).takeWhile (· ≠ '\n'.toUInt8)).length =
      (encode cs).findIdx (· = '\n'.toUInt8) := by
    rw [List.takeWhile_eq_take_findIdx_not, List.length_take,
      Nat.min_eq_left List.findIdx_le_length]
    simp
  rw [lineEnd?, suffixAt?_append, Option.map_some, ← (takeWhile_ne_encode (by decide) cs).1, hlength]
  cases hindex : (encode cs).findIdx? (· = '\n'.toUInt8) with
  | none =>
    rw [List.findIdx_eq_length.2 (List.findIdx?_eq_none_iff.1 hindex), Option.elim_none,
      List.length_append]
  | some offset => rw [(List.findIdx?_eq_some_iff_findIdx_eq.1 hindex).2, Option.elim_some]

/-! ### Bytes of other characters -/

/-- The bytes of a character after the first are none of ASCII. -/
theorem exists_utf8EncodeChar_eq (c : Char) :
    ∃ b bs, String.utf8EncodeChar c = b :: bs ∧ ∀ x ∈ bs, 128 ≤ x.toNat := by
  obtain ⟨b, bs, hbytes⟩ := List.exists_cons_of_ne_nil (utf8EncodeChar_ne_nil c)
  refine ⟨b, bs, hbytes, fun x hx ↦ ?_⟩
  by_cases hc : IsAscii c
  · rw [utf8EncodeChar_of_isAscii hc] at hbytes
    rw [← (List.cons.inj hbytes).2] at hx
    exact absurd hx List.not_mem_nil
  · exact le_of_mem_utf8EncodeChar hc (hbytes ▸ List.mem_cons_of_mem _ hx)

/-- A byte beyond ASCII is no delimiter. -/
theorem ne_of_le {b : UInt8} (hb : 128 ≤ b.toNat) {a : Char} (ha : IsAscii a) : b ≠ a.toUInt8 := by
  rintro rfl
  rw [toNat_toUInt8 ha] at hb
  exact Nat.not_lt.2 hb ha

/-- A byte beyond ASCII is code. -/
theorem itemAt?_of_le {bytes : Bytes} {i : Nat} {b : UInt8} (hi : bytes[i]? = some b)
    (hb : 128 ≤ b.toNat) : itemAt? bytes i = some .code := by
  have hquote : ¬ (b = '"'.toUInt8 ∨ b = '\''.toUInt8) := by
    rintro (h | h)
    · exact ne_of_le hb (by decide) h
    · exact ne_of_le hb (by decide) h
  rw [itemAt?, hi, Option.bind_some, if_neg fun h ↦ ne_of_le hb (by decide) h.1, if_neg hquote,
    if_neg (ne_of_le hb (by decide))]

/-- A short literal runs on over bytes that neither escape nor end it. -/
theorem quotedEnd_skip {quote : UInt8}
    (hbs : ∀ b ∈ bs, b ≠ '\\'.toUInt8 ∧ b ≠ '\n'.toUInt8 ∧ b ≠ quote) (before rest : Bytes) :
    quotedEnd (before ++ (bs ++ rest)) quote before.length =
      quotedEnd (before ++ (bs ++ rest)) quote (before ++ bs).length := by
  induction bs generalizing before with
  | nil => simp
  | cons b bs ih =>
    obtain ⟨hescape, hline, hquote⟩ := hbs b (List.mem_cons_self ..)
    have hrest := ih (fun c hc ↦ hbs c (List.mem_cons_of_mem _ hc)) (before ++ [b])
    have hlen : (before ++ [b]).length = before.length + 1 := by simp
    simp only [List.append_assoc, List.singleton_append, hlen] at hrest
    have hhead : (before ++ (b :: bs ++ rest))[before.length]? = some b := by simp
    obtain ⟨hlt, hget⟩ := List.getElem?_eq_some_iff.1 hhead
    rw [quotedEnd, dif_pos hlt, hget, if_neg hescape, if_neg hline, if_neg hquote]
    exact hrest

/-- An escape in a short literal is passed over, with all bytes of the character that it escapes. -/
theorem quotedEnd_escape {quote : Char} (hquote : IsAscii quote) (before : Bytes) (c : Char)
    (cs : List Char) :
    quotedEnd (before ++ encode ('\\' :: c :: cs)) quote.toUInt8 before.length =
      quotedEnd ((before ++ encode ['\\', c]) ++ encode cs) quote.toUInt8
        (before ++ encode ['\\', c]).length := by
  obtain ⟨b, bs, hbytes, hbs⟩ := exists_utf8EncodeChar_eq c
  -- the escape takes the first byte of the character, the others are no delimiters
  have hskip := @quotedEnd_skip bs quote.toUInt8 (fun x hx ↦ ⟨ne_of_le (hbs x hx) (by decide),
    ne_of_le (hbs x hx) (by decide), ne_of_le (hbs x hx) hquote⟩) (before ++ ['\\'.toUInt8, b])
    (encode cs)
  have hescape : encode ['\\', c] = '\\'.toUInt8 :: b :: bs := by
    rw [encode_cons_of_isAscii (by decide), encode_cons, hbytes]
    simp [encode]
  have hsplit : before ++ encode ('\\' :: c :: cs) =
      (before ++ ['\\'.toUInt8, b]) ++ (bs ++ encode cs) := by
    rw [show '\\' :: c :: cs = ['\\', c] ++ cs from rfl, encode_append, hescape]
    simp
  have hlen : (before ++ ['\\'.toUInt8, b]).length = before.length + 2 := by simp
  have hget : (before ++ encode ('\\' :: c :: cs))[before.length]? = some '\\'.toUInt8 := by
    rw [getElem?_append_encode (by decide), List.head?_cons]
  obtain ⟨hlt, hget⟩ := List.getElem?_eq_some_iff.1 hget
  rw [quotedEnd, dif_pos hlt, if_pos hget, hsplit, ← hlen, hskip, hescape]
  simp

/-- **A short literal ends in the bytes where it ends in the text.** -/
theorem quotedEnd_encode {quote : Char} (hquote : quote = '"' ∨ quote = '\'') (before : Bytes)
    (cs : List Char) :
    quotedEnd (before ++ encode cs) quote.toUInt8 before.length =
      before.length + (encode (splitQuoted quote cs).1).length := by
  have hascii : IsAscii quote := by rcases hquote with rfl | rfl <;> decide
  have hat : ∀ (before : Bytes) (c : Char) (cs : List Char), IsAscii c →
      ∃ _ : before.length < (before ++ encode (c :: cs)).length,
        (before ++ encode (c :: cs))[before.length] = c.toUInt8 := by
    intro before c cs hc
    exact List.getElem?_eq_some_iff.1 ((getElem?_append_encode hc before (c :: cs)).2 rfl)
  fun_induction splitQuoted quote cs generalizing before with
  | case1 =>
    rw [quotedEnd, dif_neg (by simp [encode])]
    simp [encode]
  | case2 c cs ih =>
    rw [quotedEnd_escape hascii, ih, show '\\' :: c :: (splitQuoted quote cs).1 =
      ['\\', c] ++ (splitQuoted quote cs).1 from rfl, encode_append ['\\', c]]
    simp only [List.length_append]
    omega
  | case3 cs =>
    obtain ⟨hlt, hget⟩ := hat before '\n' cs (by decide)
    rw [quotedEnd, dif_pos hlt, hget, if_neg (by decide), if_pos rfl]
    rfl
  | case4 cs _ hline =>
    obtain ⟨hlt, hget⟩ := hat before quote cs hascii
    have hother : quote.toUInt8 ≠ '\\'.toUInt8 ∧ quote.toUInt8 ≠ '\n'.toUInt8 := by
      rcases hquote with rfl | rfl <;> decide
    rw [quotedEnd, dif_pos hlt, hget, if_neg hother.1, if_neg hother.2, if_pos rfl,
      encode_cons_of_isAscii hascii]
    rfl
  | case5 c cs hpair hline hend ih =>
    by_cases hc : c = '\\'
    · -- a backslash at the end of the text
      subst hc
      obtain rfl : cs = [] := by
        cases cs with
        | nil => rfl
        | cons d ds => exact absurd rfl (hpair d ds rfl)
      obtain ⟨hlt, hget⟩ := hat before '\\' [] (by decide)
      rw [quotedEnd, dif_pos hlt, if_pos hget, quotedEnd, dif_neg (by simp [encode]; decide)]
      simp [splitQuoted]
    · have hplain : ∀ b ∈ String.utf8EncodeChar c,
          b ≠ '\\'.toUInt8 ∧ b ≠ '\n'.toUInt8 ∧ b ≠ quote.toUInt8 := by
        refine fun b hb ↦ ⟨?_, ?_, ?_⟩ <;> rintro rfl
        · exact hc (eq_of_mem_utf8EncodeChar (by decide) hb)
        · exact hline (eq_of_mem_utf8EncodeChar (by decide) hb)
        · exact hend (eq_of_mem_utf8EncodeChar hascii hb)
      have hrest := ih (before ++ String.utf8EncodeChar c)
      rw [encode_cons, quotedEnd_skip hplain before (encode cs), ← List.append_assoc, hrest,
        encode_cons]
      simp only [List.length_append]
      omega

/-! ### What the scan comes to -/

/-- What a segment is for the scan, from an offset on. -/
def Segment.item (offset : Nat) : Segment → Item
  | code _ => .code
  | comment text => .comment (offset + (encode text).length)
  | literal text => .literal (offset + (encode text).length)

/-- Two dashes start a comment. -/
theorem itemAt?_dashes (before : Bytes) (cs : List Char) :
    itemAt? (before ++ encode ('-' :: '-' :: cs)) before.length =
      some (.comment (before.length + 2 + (encode (match bracketLevel? cs with
        | some level => (splitBracket level cs).1
        | none => cs.takeWhile (· ≠ '\n'))).length)) := by
  have hdash : IsAscii '-' := by decide
  have hsplit : before ++ encode ('-' :: '-' :: cs) = (before ++ encode ['-', '-']) ++ encode cs := by
    rw [List.append_assoc, ← encode_append]
    rfl
  have hlen : (before ++ encode ['-', '-']).length = before.length + 2 := by
    rw [List.length_append, length_encode_of_isAscii (by simpa using hdash)]
    rfl
  have hfirst : (before ++ encode ('-' :: '-' :: cs))[before.length]? = some '-'.toUInt8 :=
    (getElem?_append_encode hdash ..).2 rfl
  have hsecond : (before ++ encode ('-' :: '-' :: cs))[before.length + 1]? = some '-'.toUInt8 := by
    rw [encode_cons_of_isAscii hdash, encode_cons_of_isAscii hdash]
    simp
  have hlevel := levelAt?_encode (before ++ encode ['-', '-']) cs
  rw [← hsplit, hlen] at hlevel
  rw [itemAt?, hfirst, Option.bind_some, if_pos ⟨rfl, hsecond⟩, hlevel, Option.bind_some]
  cases hcs : bracketLevel? cs with
  | some level =>
    have hend := bracketEnd?_encode (before ++ encode ['-', '-']) hcs
    rw [← hsplit, hlen] at hend
    simp only [hend, Option.map_some]
  | none =>
    have htake : ('-' :: '-' :: cs).takeWhile (· ≠ '\n') =
        '-' :: '-' :: cs.takeWhile (· ≠ '\n') := rfl
    simp only
    rw [lineEnd?_encode, htake, encode_cons_of_isAscii hdash, encode_cons_of_isAscii hdash,
      List.length_cons, List.length_cons, Option.map_some]
    congr 2
    omega

/-- A character of ASCII that starts no comment is a delimiter of a string literal, or code. -/
theorem itemAt?_of_isAscii {c : Char} (hc : IsAscii c) (hdashes : ¬ (c = '-' ∧ cs.head? = some '-'))
    (before : Bytes) :
    itemAt? (before ++ encode (c :: cs)) before.length =
      if c = '"' ∨ c = '\'' then
        some (.literal (before.length + 1 + (encode (splitQuoted c cs).1).length))
      else match bracketLevel? (c :: cs) with
        | some level =>
          some (.literal (before.length + (encode (splitBracket level (c :: cs)).1).length))
        | none => some .code := by
  have hfirst : (before ++ encode (c :: cs))[before.length]? = some c.toUInt8 :=
    (getElem?_append_encode hc ..).2 rfl
  have hcomment : ¬ (c.toUInt8 = '-'.toUInt8 ∧
      (before ++ encode (c :: cs))[before.length + 1]? = some '-'.toUInt8) := by
    have hnext := getElem?_append_encode (a := '-') (by decide) (before ++ [c.toUInt8]) cs
    rw [← append_encode_cons hc, List.length_append, List.length_singleton] at hnext
    rw [toUInt8_inj hc (by decide), hnext]
    exact hdashes
  have hquotes : (c.toUInt8 = '"'.toUInt8 ∨ c.toUInt8 = '\''.toUInt8) ↔ c = '"' ∨ c = '\'' :=
    or_congr (toUInt8_inj hc (by decide)) (toUInt8_inj hc (by decide))
  rw [itemAt?, hfirst, Option.bind_some, if_neg hcomment]
  by_cases hquote : c = '"' ∨ c = '\''
  · have hend := quotedEnd_encode hquote (before ++ [c.toUInt8]) cs
    rw [← append_encode_cons hc, List.length_append, List.length_singleton] at hend
    rw [if_pos (hquotes.2 hquote), if_pos hquote, hend]
  · rw [if_neg (hquotes.not.2 hquote), if_neg hquote, levelAt?_encode, Option.bind_some]
    cases hcs : bracketLevel? (c :: cs) with
    | some level =>
      obtain ⟨tail, htail⟩ := eq_of_bracketLevel? hcs
      rw [if_pos ((toUInt8_inj hc (by decide)).2 (List.cons.inj htail).1)]
      simp only [bracketEnd?_encode before hcs, Option.map_some]
    | none => simp only [ite_self]

/-- **What stands at an offset** is the segment of the text there. -/
theorem itemAt?_encode (before : Bytes) {rest : List Char} {s : Segment}
    (h : Segment.next? cs = some (s, rest)) :
    itemAt? (before ++ encode cs) before.length = some (s.item before.length) := by
  have hdash : IsAscii '-' := by decide
  cases Segment.next?_eq_some_iff.1 h with
  | longComment hlevel =>
    rw [itemAt?_dashes]
    simp only [hlevel, Segment.item, encode_cons_of_isAscii hdash, List.length_cons]
    congr 2
    omega
  | lineComment hlevel =>
    rw [itemAt?_dashes]
    simp only [hlevel, Segment.item, encode_cons_of_isAscii hdash, List.length_cons]
    congr 2
    omega
  | @quoted quote cs hquote =>
    have hascii : IsAscii quote := by rcases hquote with rfl | rfl <;> decide
    have hcomment : ¬ (quote = '-' ∧ cs.head? = some '-') := by
      rcases hquote with rfl | rfl <;> simp
    rw [itemAt?_of_isAscii hascii hcomment, if_pos hquote, Segment.item,
      encode_cons_of_isAscii hascii, List.length_cons]
    congr 2
    omega
  | bracket hlevel =>
    obtain ⟨tail, rfl⟩ := Segment.head?_of_bracketLevel? hlevel
    rw [itemAt?_of_isAscii (by decide) (by simp), if_neg (by decide)]
    simp only [hlevel, Segment.item]
  | @code c cs hdashes hquote hlevel =>
    by_cases hc : IsAscii c
    · rw [itemAt?_of_isAscii hc hdashes, if_neg hquote]
      simp only [hlevel, Segment.item]
    · -- a character beyond ASCII opens nothing
      obtain ⟨b, bs, hbytes, -⟩ := exists_utf8EncodeChar_eq c
      refine itemAt?_of_le (b := b) ?_ (le_of_mem_utf8EncodeChar hc (by simp [hbytes]))
      rw [encode_cons, hbytes]
      simp

/-- Bytes of code are passed over. -/
theorem scanFrom?_skip (hbs : ∀ b ∈ bs, 128 ≤ b.toNat) (before rest masked : Bytes)
    (strings : List (Nat × Nat)) :
    scanFrom? (before ++ (bs ++ rest)) before.length masked strings =
      scanFrom? (before ++ (bs ++ rest)) (before ++ bs).length masked strings := by
  induction bs generalizing before with
  | nil => simp
  | cons b bs ih =>
    have hrest := ih (fun c hc ↦ hbs c (List.mem_cons_of_mem _ hc)) (before ++ [b])
    have hlen : (before ++ [b]).length = before.length + 1 := by simp
    simp only [List.append_assoc, List.singleton_append, hlen] at hrest
    have hget : (before ++ (b :: bs ++ rest))[before.length]? = some b := by simp
    rw [scanFrom?, if_pos (List.getElem?_eq_some_iff.1 hget).1,
      itemAt?_of_le hget (hbs b (List.mem_cons_self ..))]
    exact hrest

/-- Behind the first byte of a character of code the scan goes on behind the character. -/
theorem scanFrom?_character (c : Char) (before rest masked : Bytes) (strings : List (Nat × Nat)) :
    scanFrom? (before ++ (encode [c] ++ rest)) (before.length + 1) masked strings =
      scanFrom? (before ++ (encode [c] ++ rest)) (before ++ encode [c]).length masked strings := by
  obtain ⟨b, bs, hbytes, hbs⟩ := exists_utf8EncodeChar_eq c
  have hc : encode [c] = b :: bs := by simp [encode, hbytes]
  have hskip := scanFrom?_skip hbs (before ++ [b]) rest masked strings
  simpa only [hc, List.append_assoc, List.cons_append, List.nil_append, List.length_append,
    List.length_cons, List.length_nil, Nat.zero_add] using hskip

/-- Masking a character makes its bytes blank. -/
theorem map_blankedByte (cs : List Char) :
    (encode cs).map blankedByte = encode (cs.flatMap blanked) := by
  induction cs with
  | nil => rfl
  | cons c cs ih =>
    have hc : (String.utf8EncodeChar c).map blankedByte = encode (blanked c) := by
      by_cases hline : c = '\n'
      · subst hline
        rfl
      · have hblank : ∀ b ∈ String.utf8EncodeChar c, blankedByte b = ' '.toUInt8 := by
          intro b hb
          refine if_neg ?_
          rintro rfl
          exact hline (eq_of_mem_utf8EncodeChar (by decide) hb)
        have hencode : ∀ n, encode (List.replicate n ' ') = List.replicate n ' '.toUInt8 := by
          intro n
          induction n with
          | zero => rfl
          | succ n ih =>
            rw [List.replicate_succ, encode_cons_of_isAscii (by decide), ih, List.replicate_succ]
        rw [blanked, if_neg hline, hencode, List.map_congr_left hblank, List.map_const',
          String.length_utf8EncodeChar]
    rw [encode_cons, List.map_append, hc, ih, List.flatMap_cons, encode_append]

/-- A range between two parts of the bytes is in bounds. -/
theorem blankRange?_append (before bs rest : Bytes) :
    blankRange? (before ++ (bs ++ rest)) before.length (before.length + bs.length) =
      some (before ++ (bs.map blankedByte ++ rest)) := by
  rw [blankRange?, if_pos (by simp), List.take_left, List.drop_left, Nat.add_sub_cancel_left,
    List.take_left, ← List.length_append, ← List.append_assoc before bs, List.drop_left,
    List.append_assoc]

/-- **The scan takes a segment**: it masks its bytes, and puts down where a literal is. -/
theorem scanFrom?_segment {before done : Bytes} (hlength : done.length = before.length)
    {cs rest : List Char} {s : Segment} (hnext : Segment.next? cs = some (s, rest))
    (strings : List (Nat × Nat)) :
    scanFrom? (before ++ (encode s.text ++ encode rest)) before.length
        (done ++ (encode s.text ++ encode rest)) strings =
      scanFrom? (before ++ (encode s.text ++ encode rest)) (before ++ encode s.text).length
        (done ++ (encode s.masked ++ encode rest)) (strings ++ literalRanges before.length [s]) := by
  have hitem := itemAt?_encode before hnext
  rw [← Segment.append_next? hnext, encode_append] at hitem
  have hpos : 0 < (encode s.text).length := by
    rw [length_encode]
    exact byteLength_pos (Segment.text_ne_nil hnext)
  have hlt : before.length < (before ++ (encode s.text ++ encode rest)).length := by
    simp only [List.length_append]
    omega
  rw [scanFrom?, if_pos hlt, hitem]
  cases s with
  | comment text =>
    have hblank := blankRange?_append done (encode text) (encode rest)
    rw [hlength, map_blankedByte] at hblank
    simp only [Segment.item, Segment.text, Segment.masked] at hpos ⊢
    rw [if_pos (Nat.lt_add_of_pos_right hpos), hblank, Option.bind_some]
    simp [literalRanges]
  | literal text =>
    simp only [Segment.item, Segment.text, Segment.masked] at hpos ⊢
    rw [if_pos (Nat.lt_add_of_pos_right hpos)]
    simp [literalRanges, Segment.text, length_encode]
  | code c =>
    simp only [Segment.item, Segment.text, Segment.masked]
    rw [scanFrom?_character]
    simp [literalRanges]

/-- **The scan of the rest of a text.** What is masked so far has the length of what is scanned. -/
theorem scanFrom?_encode {before done : Bytes} (hlength : done.length = before.length)
    (cs : List Char) (strings : List (Nat × Nat)) :
    scanFrom? (before ++ encode cs) before.length (done ++ encode cs) strings =
      some (done ++ encode (masked cs), strings ++ literalRanges before.length (segments cs)) := by
  fun_induction segments cs generalizing before done strings with
  | case1 cs hnone =>
    obtain rfl := Segment.next?_eq_none_iff.1 hnone
    rw [scanFrom?, if_neg (by simp [encode]), masked_nil]
    simp [literalRanges]
  | case2 cs s rest hnext _ ih =>
    have hlength' : (done ++ encode s.masked).length = (before ++ encode s.text).length := by
      simp only [List.length_append, hlength, length_encode, byteLength_masked]
    have hrest := ih hlength' (strings ++ literalRanges before.length [s])
    have hranges : literalRanges before.length (s :: segments rest) =
        literalRanges before.length [s] ++
          literalRanges (before ++ encode s.text).length (segments rest) := by
      simpa [length_encode] using literalRanges_append before.length [s] (segments rest)
    have hcs : encode cs = encode s.text ++ encode rest := by
      rw [← Segment.append_next? hnext, encode_append]
    rw [List.append_assoc, List.append_assoc] at hrest
    rw [hcs, scanFrom?_segment hlength hnext, hrest, masked_of_next? hnext, encode_append, hranges,
      List.append_assoc, List.append_assoc]

/-- **Scanning the bytes of a text never fails**, and comes to the bytes of the masked text, the ranges
of its string literals and the starts of its lines. -/
theorem scan?_encode (cs : List Char) :
    scan? (encode cs) = some ⟨encode (masked cs), literals cs, lineOffsets (encode cs)⟩ := by
  have h := @scanFrom?_encode [] [] rfl cs []
  simp only [List.nil_append, List.length_nil] at h
  rw [scan?, h]
  rfl

end LuaBundler.Source
