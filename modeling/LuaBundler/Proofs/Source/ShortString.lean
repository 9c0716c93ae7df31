import LuaBundler.Bundle.Document
import LuaBundler.Proofs.Text.Utf8
import LuaBundler.Text.Digits

/-!
# Short strings

How Lua reads a short string: byte by byte up to the quote that opened it, where a backslash opens an
escape and a line break of either kind ends the reading without a string (`shortString?`). The escapes
are those of the reference manual of Lua 5.4; those that a name is written with are in every version.

A name that was written is read back (`shortString?_quoted`), unless it has a carriage return: that
one is written as it is, and is a line break to Lua. The written form determines the name all the
same (`quoted_inj`).
-/

namespace LuaBundler.Source

open Text

/-! ### Escapes -/

/-- The bytes that `\z` skips. -/
def isSpaceByte (b : UInt8) : Bool :=
  b ∈ [0x09, 0x0A, 0x0B, 0x0C, 0x0D, 0x20]

/-- The letters and signs that stand for one byte behind a backslash. -/
def signEscapes : List (Char × UInt8) :=
  [('a', 0x07), ('b', 0x08), ('f', 0x0C), ('n', 0x0A), ('r', 0x0D), ('t', 0x09), ('v', 0x0B),
    ('\\', 0x5C), ('"', 0x22), ('\'', 0x27)]

/-- The number that hexadecimal digits spell. -/
def hexNumber (digits : Bytes) : Nat :=
  digits.foldl (fun n b ↦ n * 16 + (hexValue? (Char.ofUInt8 b)).getD 0) 0

/-- The UTF-8 scheme carried on to numbers below `2 ^ 31`, in up to six bytes. -/
def longUtf8 (n : Nat) : Bytes :=
  if n < 0x80 then [UInt8.ofNat n]
  else
    let more := [0x800, 0x10000, 0x200000, 0x4000000].countP (· ≤ n) + 1
    UInt8.ofNat (256 - Nat.pow 2 (7 - more) + n / Nat.pow 64 more) ::
      (List.range more).reverse.map fun i ↦ UInt8.ofNat (0x80 + n / Nat.pow 64 i % 64)

/-- Two hexadecimal digits. -/
def hexEscape? (bs : Bytes) : Option (Bytes × Nat) :=
  let digits := (bs.take 2).takeWhile fun b ↦ (hexValue? (Char.ofUInt8 b)).isSome
  if digits.length = 2 then some ([UInt8.ofNat (hexNumber digits)], 2) else none

/-- Up to three decimal digits, whose number is that of a byte. -/
def decimalEscape? (bs : Bytes) : Option (Bytes × Nat) :=
  let digits := (bs.take 3).takeWhile fun b ↦ (Char.ofUInt8 b).isDigit
  let n := digits.foldl (fun n b ↦ n * 10 + (b.toNat - 48)) 0
  if digits ≠ [] ∧ n < 256 then some ([UInt8.ofNat n], digits.length) else none

/-- The number of a character in hexadecimal digits between braces. -/
def codeEscape? : Bytes → Option (Bytes × Nat)
  | 0x7B :: bs =>
    let digits := bs.takeWhile fun b ↦ (hexValue? (Char.ofUInt8 b)).isSome
    let n := hexNumber digits
    if digits ≠ [] ∧ n < Nat.pow 2 31 ∧ bs[digits.length]? = some 0x7D then
      some (longUtf8 n, digits.length + 2)
    else none
  | _ => none

/-- The bytes that an escape denotes, and how many bytes it has behind the backslash. -/
def escape? : Bytes → Option (Bytes × Nat)
  | [] => none
  | b :: bs =>
    match signEscapes.lookup (Char.ofUInt8 b) with
    | some value => some ([value], 1)
    | none =>
      match Char.ofUInt8 b with
      -- a line break, also one of two bytes, is a line feed
      | '\n' => some ([0x0A], if bs.head? = some 0x0D then 2 else 1)
      | '\r' => some ([0x0A], if bs.head? = some 0x0A then 2 else 1)
      | 'z' => some ([], 1 + (bs.takeWhile isSpaceByte).length)
      | 'x' => (hexEscape? bs).map fun r ↦ (r.1, r.2 + 1)
      | 'u' => (codeEscape? bs).map fun r ↦ (r.1, r.2 + 1)
      | _ => decimalEscape? (b :: bs)

/-! ### Strings -/

/-- The bytes that the rest of a short string denotes, whose opening quote has been read, and what
follows the closing one. -/
def shortBody? (quote : UInt8) : Bytes → Option (Bytes × Bytes)
  | [] => none
  | b :: bs =>
    if b = quote then some ([], bs)
    else if b = '\n'.toUInt8 ∨ b = '\r'.toUInt8 then none
    else if b = '\\'.toUInt8 then
      (escape? bs).bind fun e ↦ (shortBody? quote (bs.drop e.2)).map fun r ↦ (e.1 ++ r.1, r.2)
    else (shortBody? quote bs).map fun r ↦ (b :: r.1, r.2)
termination_by bs => bs.length
decreasing_by
  all_goals
    simp only [List.length_drop, List.length_cons]
    omega

/-- The bytes that the short string which opens here denotes, and what follows it. -/
def shortString? : Bytes → Option (Bytes × Bytes)
  | [] => none
  | b :: bs => if b = '"'.toUInt8 ∨ b = '\''.toUInt8 then shortBody? b bs else none

/-! ### Names that were written -/

variable {c d : Char} {cs ds : List Char} {quote : UInt8} {bs : Bytes}

/-- Bytes that neither end a string nor open an escape stand for themselves. -/
theorem shortBody?_append (h : ∀ b ∈ bs, b ≠ quote ∧ b ≠ '\n'.toUInt8 ∧ b ≠ '\r'.toUInt8 ∧
    b ≠ '\\'.toUInt8) (rest : Bytes) :
    shortBody? quote (bs ++ rest) = (shortBody? quote rest).map fun r ↦ (bs ++ r.1, r.2) := by
  induction bs with
  | nil => simp
  | cons b bs ih =>
    obtain ⟨hquote, hline, hreturn, hback⟩ := h b (List.mem_cons_self ..)
    rw [List.cons_append, shortBody?, if_neg hquote, if_neg (not_or.2 ⟨hline, hreturn⟩),
      if_neg hback, ih fun b' hb' ↦ h b' (List.mem_cons_of_mem _ hb'), Option.map_map]
    rfl

/-- A sign behind a backslash stands for its byte. -/
theorem shortBody?_sign {b value : UInt8} (h : signEscapes.lookup (Char.ofUInt8 b) = some value)
    (rest : Bytes) : shortBody? '"'.toUInt8 ('\\'.toUInt8 :: b :: rest) =
      (shortBody? '"'.toUInt8 rest).map fun r ↦ (value :: r.1, r.2) := by
  have hescape : escape? (b :: rest) = some ([value], 1) := by simp only [escape?, h]
  rw [shortBody?, if_neg (by decide), if_neg (by decide), if_pos rfl, hescape, Option.bind_some]
  rfl

/-- **One character that was written is read back**, a carriage return apart. -/
theorem shortBody?_quotedChar (c : Char) (rest : Bytes) :
    shortBody? '"'.toUInt8 (encode (quotedChar c) ++ rest) = if c = '\r' then none else
      (shortBody? '"'.toUInt8 rest).map fun r ↦ (String.utf8EncodeChar c ++ r.1, r.2) := by
  unfold quotedChar
  split
  · rename_i hc
    rcases hc with rfl | rfl
    · exact shortBody?_sign (by decide) rest
    · exact shortBody?_sign (by decide) rest
  · rename_i hc
    split
    · subst c
      exact shortBody?_sign (by decide) rest
    · rename_i hline
      rw [encode, List.flatMap_singleton]
      split
      · subst c
        rw [show String.utf8EncodeChar '\r' ++ rest = '\r'.toUInt8 :: rest by rfl, shortBody?,
          if_neg (by decide), if_pos (.inr rfl)]
      · rename_i hreturn
        -- a byte of ASCII among the bytes of a character is that character
        refine shortBody?_append (fun b hb ↦ ⟨?_, ?_, ?_, ?_⟩) rest <;> rintro rfl
        · exact hc (.inl (eq_of_mem_utf8EncodeChar (by decide) hb))
        · exact hline (eq_of_mem_utf8EncodeChar (by decide) hb)
        · exact hreturn (eq_of_mem_utf8EncodeChar (by decide) hb)
        · exact hc (.inr (eq_of_mem_utf8EncodeChar (by decide) hb))

@[simp] theorem quotedBody_cons (c : Char) (cs : List Char) :
    quotedBody (c :: cs) = quotedChar c ++ quotedBody cs :=
  List.flatMap_cons

/-- The characters of a name are read back up to the closing quote. -/
theorem shortBody?_quotedBody (cs : List Char) (rest : Bytes) :
    shortBody? '"'.toUInt8 (encode (quotedBody cs) ++ '"'.toUInt8 :: rest) =
      if '\r' ∈ cs then none else some (encode cs, rest) := by
  induction cs with
  | nil => simp [quotedBody, encode, shortBody?]
  | cons c cs ih =>
    rw [quotedBody_cons, encode_append, List.append_assoc, shortBody?_quotedChar, ih]
    -- one carriage return is enough, the first character or a later one
    by_cases hc : c = '\r'
    · simp [hc]
    · by_cases hcs : '\r' ∈ cs <;> simp [hc, hcs, Ne.symm hc, encode_cons]

/-- **A written name is one short string, and denotes the name**, whatever comes after it; with a
carriage return it is no short string. -/
theorem shortString?_quoted (name : String) (rest : Bytes) :
    shortString? (encodeString (quoted name) ++ rest) =
      if '\r' ∈ name.toList then none else some (encodeString name, rest) := by
  have htext : encodeString (quoted name) ++ rest =
      '"'.toUInt8 :: (encode (quotedBody name.toList) ++ '"'.toUInt8 :: rest) := by
    have hnil : encode [] = [] := rfl
    simp [encodeString, quoted, encode_cons_of_isAscii (show IsAscii '"' by decide), hnil]
  rw [htext, shortString?, if_pos (.inl rfl), shortBody?_quotedBody]
  rfl

/-- Where two characters differ, so do their written forms, whatever comes after them. -/
theorem quotedChar_append_inj (h : quotedChar c ++ cs = quotedChar d ++ ds) : c = d ∧ cs = ds := by
  unfold quotedChar at h
  split_ifs at h <;> grind

theorem quotedBody_inj (h : quotedBody cs = quotedBody ds) : cs = ds := by
  -- every character leaves something, so the two names end together
  have hne : ∀ c cs, quotedBody (c :: cs) ≠ [] := by
    intro c cs
    rw [quotedBody_cons, quotedChar]
    split_ifs <;> simp
  induction cs generalizing ds with
  | nil =>
    cases ds with
    | nil => rfl
    | cons d ds => exact absurd h.symm (hne d ds)
  | cons c cs ih =>
    cases ds with
    | nil => exact absurd h (hne c cs)
    | cons d ds =>
      rw [quotedBody_cons, quotedBody_cons] at h
      obtain ⟨rfl, hrest⟩ := quotedChar_append_inj h
      rw [ih hrest]

/-- **Names are told apart by their written forms**, those with a carriage return as well. -/
theorem quoted_inj {name other : String} : quoted name = quoted other ↔ name = other := by
  refine ⟨fun h ↦ ?_, fun h ↦ h ▸ rfl⟩
  rw [quoted, quoted, String.ofList_inj, List.append_left_inj, List.cons_inj_right] at h
  exact String.toList_inj.1 (quotedBody_inj h)

/-- What stands in a written name, the signs of its escapes apart, stands in the name and is no line
feed. -/
theorem mem_quoted_iff (name : String) (hc : c ∉ ['"', '\\', 'n']) :
    c ∈ (quoted name).toList ↔ c ∈ name.toList ∧ c ≠ '\n' := by
  simp only [List.mem_cons, List.not_mem_nil, or_false, not_or] at hc
  obtain ⟨hquote, hback, hn⟩ := hc
  have hchar : ∀ d, c ∈ quotedChar d ↔ c = d ∧ c ≠ '\n' := by
    intro d
    unfold quotedChar
    split_ifs with h1 h2
    · rcases h1 with rfl | rfl <;> simp [hquote, hback]
    · simp [hback, hn, h2]
    · simp only [List.mem_singleton]
      exact ⟨fun h ↦ ⟨h, h ▸ h2⟩, fun h ↦ h.1⟩
  have hbody : c ∈ quotedBody name.toList ↔ c ∈ name.toList ∧ c ≠ '\n' := by
    simp [quotedBody, List.mem_flatMap, hchar]
  simp [quoted, hbody, hquote]

end LuaBundler.Source
