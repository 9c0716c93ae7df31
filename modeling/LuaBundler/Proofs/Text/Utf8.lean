import LuaBundler.Text.Utf8
import Mathlib.Data.List.Basic

/-!
# Encoded text

Decoding what was encoded gives the text again, with no piece that is not well formed
(`decodePieces_encode`): the first byte of a character gives the payload and the range of the second
byte, and each further byte six bits.
-/

namespace LuaBundler.Text

deriving instance DecidableEq for Lead

theorem toNat_ofNat {n : Nat} (h : n < 256) : (UInt8.ofNat n).toNat = n :=
  UInt8.toNat_ofNat_of_lt h

/-! ### Continuation bytes -/

section

variable {p y : Nat} {low high : UInt8} (hy : y < 64) (hlow : low.toNat ≤ y + 128)
  (hhigh : y + 128 ≤ high.toNat)

include hy hlow hhigh

theorem continuation_last (bs : Bytes) :
    continuation p low high 0 (UInt8.ofNat (y + 128) :: bs) = (some (p * 64 + y), 1) := by
  have hmod : (y + 128) % 256 = y + 128 := Nat.mod_eq_of_lt (by omega)
  simp [continuation, UInt8.le_iff_toNat_le, hmod, hlow, hhigh]

theorem continuation_more {more code used : Nat} {bs : Bytes}
    (h : continuation (p * 64 + y) 0x80 0xBF more bs = (some code, used)) :
    continuation p low high (more + 1) (UInt8.ofNat (y + 128) :: bs) = (some code, used + 1) := by
  have hmod : (y + 128) % 256 = y + 128 := Nat.mod_eq_of_lt (by omega)
  simp [continuation, UInt8.le_iff_toNat_le, hmod, hlow, hhigh, h]

end

/-! ### First bytes -/

theorem lead_two : ∀ x < 32, 2 ≤ x →
    Lead.ofByte? (UInt8.ofNat (x + 192)) = some ⟨x, 0x80, 0xBF, 0⟩ := by
  decide

theorem lead_three : ∀ x < 16, Lead.ofByte? (UInt8.ofNat (x + 224)) =
    some ⟨x, if x = 0 then 0xA0 else 0x80, if x = 13 then 0x9F else 0xBF, 1⟩ := by
  decide

theorem lead_four : ∀ x < 5, Lead.ofByte? (UInt8.ofNat (x + 240)) =
    some ⟨x, if x = 0 then 0x90 else 0x80, if x = 4 then 0x8F else 0xBF, 2⟩ := by
  decide

/-- A first byte with its continuation is the character of their code. -/
theorem decodePieces_of_lead {n : Nat} {bs : Bytes} {lead : Lead} {code used : Nat}
    (hn : 128 ≤ n) (hn' : n < 256) (hlead : Lead.ofByte? (UInt8.ofNat n) = some lead)
    (hcont : continuation lead.payload lead.low lead.high lead.more bs = (some code, used)) :
    decodePieces (UInt8.ofNat n :: bs) =
      some (Char.ofNat code) :: decodePieces (bs.drop used) := by
  have hfirst : ¬UInt8.ofNat n < 0x80 := by
    rw [UInt8.lt_iff_toNat_lt, toNat_ofNat hn']
    simpa using hn
  rw [decodePieces]
  simp [hfirst, hlead, hcont]

/-! ### One character, by the number of its bytes -/

section

variable {v : Nat} (bs : Bytes)

theorem decodePieces_one (hv : v ≤ 0x7F) :
    decodePieces (UInt8.ofNat v :: bs) = some (Char.ofNat v) :: decodePieces bs := by
  have hlt : UInt8.ofNat v < 0x80 := by
    rw [UInt8.lt_iff_toNat_lt, toNat_ofNat (by omega)]
    exact Nat.lt_succ_of_le hv
  rw [decodePieces, if_pos hlt, toNat_ofNat (by omega)]

theorem decodePieces_two (hv : 0x7F < v) (hv' : v ≤ 0x7FF) :
    decodePieces (UInt8.ofNat (v / 64 % 32 + 192) :: UInt8.ofNat (v % 64 + 128) :: bs) =
      some (Char.ofNat v) :: decodePieces bs := by
  have hcode : v / 64 * 64 + v % 64 = v := by omega
  have hlast : continuation (v / 64) 0x80 0xBF 0 (UInt8.ofNat (v % 64 + 128) :: bs) =
      (some (v / 64 * 64 + v % 64), 1) :=
    continuation_last (by omega) (by simp) (by simp; omega) bs
  rw [hcode] at hlast
  rw [Nat.mod_eq_of_lt (a := v / 64) (by omega)]
  exact decodePieces_of_lead (by omega) (by omega) (lead_two (v / 64) (by omega) (by omega)) hlast

theorem decodePieces_three (hv : 0x7FF < v) (hv' : v ≤ 0xFFFF) (hvalid : v < 0xD800 ∨ 0xDFFF < v) :
    decodePieces (UInt8.ofNat (v / 4096 % 16 + 224) :: UInt8.ofNat (v / 64 % 64 + 128) ::
      UInt8.ofNat (v % 64 + 128) :: bs) = some (Char.ofNat v) :: decodePieces bs := by
  have hcode : (v / 4096 * 64 + v / 64 % 64) * 64 + v % 64 = v := by omega
  have hlast : continuation (v / 4096 * 64 + v / 64 % 64) 0x80 0xBF 0
      (UInt8.ofNat (v % 64 + 128) :: bs) =
      (some ((v / 4096 * 64 + v / 64 % 64) * 64 + v % 64), 1) :=
    continuation_last (by omega) (by simp) (by simp; omega) bs
  rw [hcode] at hlast
  rw [Nat.mod_eq_of_lt (a := v / 4096) (by omega)]
  -- the second byte keeps out the longer encodings and the surrogates
  refine decodePieces_of_lead (by omega) (by omega) (lead_three (v / 4096) (by omega))
    (continuation_more (by omega) ?_ ?_ hlast)
  · dsimp only
    split
    · simp
      omega
    · simp
  · dsimp only
    split
    · simp
      omega
    · simp
      omega

theorem decodePieces_four (hv : 0xFFFF < v) (hv' : v < 0x110000) :
    decodePieces (UInt8.ofNat (v / 262144 % 8 + 240) :: UInt8.ofNat (v / 4096 % 64 + 128) ::
      UInt8.ofNat (v / 64 % 64 + 128) :: UInt8.ofNat (v % 64 + 128) :: bs) =
      some (Char.ofNat v) :: decodePieces bs := by
  have hcode : ((v / 262144 * 64 + v / 4096 % 64) * 64 + v / 64 % 64) * 64 + v % 64 = v := by
    omega
  have hlast : continuation ((v / 262144 * 64 + v / 4096 % 64) * 64 + v / 64 % 64) 0x80 0xBF 0
      (UInt8.ofNat (v % 64 + 128) :: bs) =
      (some (((v / 262144 * 64 + v / 4096 % 64) * 64 + v / 64 % 64) * 64 + v % 64), 1) :=
    continuation_last (by omega) (by simp) (by simp; omega) bs
  rw [hcode] at hlast
  have hmore : continuation (v / 262144 * 64 + v / 4096 % 64) 0x80 0xBF 1
      (UInt8.ofNat (v / 64 % 64 + 128) :: UInt8.ofNat (v % 64 + 128) :: bs) = (some v, 2) :=
    continuation_more (by omega) (by simp) (by simp; omega) hlast
  rw [Nat.mod_eq_of_lt (a := v / 262144) (by omega)]
  -- the second byte keeps out the longer encodings and what is above the last character
  refine decodePieces_of_lead (by omega) (by omega) (lead_four (v / 262144) (by omega))
    (continuation_more (by omega) ?_ ?_ hmore)
  · dsimp only
    split
    · simp
      omega
    · simp
  · dsimp only
    split
    · simp
      omega
    · simp
      omega

end

/-- **A character that was encoded is decoded first.** -/
theorem decodePieces_utf8EncodeChar (c : Char) (bs : Bytes) :
    decodePieces (String.utf8EncodeChar c ++ bs) = some c :: decodePieces bs := by
  have hvalid : c.val.toNat < 0xD800 ∨ (0xDFFF < c.val.toNat ∧ c.val.toNat < 0x110000) := c.valid
  have hchar : Char.ofNat c.val.toNat = c := Char.ofNat_toNat c
  unfold String.utf8EncodeChar
  generalize c.val.toNat = v at *
  simp only
  split
  · simp only [List.cons_append, List.nil_append, decodePieces_one bs ‹_›, hchar]
  split
  · have hdecoded := decodePieces_two (v := v) bs (by omega) ‹_›
    simpa only [List.cons_append, List.nil_append, hchar] using hdecoded
  split
  · have hdecoded := decodePieces_three (v := v) bs (by omega) ‹_› (by omega)
    simpa only [List.cons_append, List.nil_append, hchar] using hdecoded
  · have hdecoded := decodePieces_four (v := v) bs (by omega) (by omega)
    simpa only [List.cons_append, List.nil_append, hchar] using hdecoded

/-- **What was encoded is decoded**, without a piece that is not well formed. -/
theorem decodePieces_encode (cs : List Char) : decodePieces (encode cs) = cs.map some := by
  induction cs with
  | nil => rw [encode, List.flatMap_nil, decodePieces, List.map_nil]
  | cons c cs ih =>
    rw [encode, List.flatMap_cons, decodePieces_utf8EncodeChar, ← encode, ih, List.map_cons]

/-- Each piece takes a byte at least. -/
theorem length_decodePieces_le (bs : Bytes) : (decodePieces bs).length ≤ bs.length := by
  fun_induction decodePieces bs with
  | case1 => exact Nat.le_refl 0
  | case2 b bs _ ih => simpa using ih
  | case3 b bs _ _ ih => simpa using ih
  | case4 b bs _ lead _ code used _ ih =>
    rw [List.length_drop] at ih
    simp only [List.length_cons]
    omega

/-- A text has no more characters than the bytes it is read from. -/
theorem length_lossyString_le (bs : Bytes) : (lossyString bs).toList.length ≤ bs.length := by
  rw [lossyString, String.toList_ofList, decodeLossy, List.length_map]
  exact length_decodePieces_le bs

theorem lossyString_encodeString (s : String) : lossyString (encodeString s) = s := by
  rw [lossyString, decodeLossy, encodeString, decodePieces_encode, List.map_map]
  simp [Function.comp_def]

/-- Only the empty text has no bytes. -/
@[simp] theorem encodeString_eq_nil_iff {s : String} : encodeString s = [] ↔ s = "" := by
  refine ⟨fun h ↦ ?_, fun h ↦ h ▸ rfl⟩
  rw [← lossyString_encodeString s, h]
  simp [lossyString, decodeLossy, decodePieces]

/-- The strict reading accepts what was encoded. -/
theorem string?_encodeString (s : String) : string? (encodeString s) = some s := by
  have hall : ∀ cs : List Char, (cs.map some).mapM id = some cs := by
    intro cs
    induction cs with
    | nil => rfl
    | cons c cs ih => simp [ih]
  rw [string?, decode?, encodeString, decodePieces_encode, hall, Option.map_some,
    String.ofList_toList]

/-! ### Delimiters of encoded text

A character of ASCII is encoded as one byte, and the bytes of every other character lie above those.
So a byte of ASCII in an encoded text is that character of the text (`eq_of_mem_utf8EncodeChar`), and
a scan of the bytes for delimiters comes to what a scan of the characters comes to
(`takeWhile_encode`, `isPrefixOf_encode`). -/

/-- A character of ASCII. -/
def IsAscii (c : Char) : Prop :=
  c.val.toNat < 128

instance (c : Char) : Decidable (IsAscii c) :=
  inferInstanceAs (Decidable (_ < _))

variable {a c : Char} {cs : List Char}

theorem encode_cons (c : Char) (cs : List Char) :
    encode (c :: cs) = String.utf8EncodeChar c ++ encode cs :=
  List.flatMap_cons

@[simp] theorem encode_append (cs ds : List Char) : encode (cs ++ ds) = encode cs ++ encode ds :=
  List.flatMap_append

/-! ### Bytes of characters -/

theorem utf8EncodeChar_of_isAscii (h : IsAscii c) : String.utf8EncodeChar c = [c.toUInt8] := by
  have hle : c.val.toNat ≤ 127 := Nat.le_of_lt_succ h
  simp only [String.utf8EncodeChar, if_pos hle]
  rfl

theorem utf8EncodeChar_ne_nil (c : Char) : String.utf8EncodeChar c ≠ [] := by
  rw [← List.length_pos_iff, String.length_utf8EncodeChar]
  exact c.utf8Size_pos

/-- The bytes of a character beyond ASCII lie above those of ASCII. -/
theorem le_of_mem_utf8EncodeChar (h : ¬ IsAscii c) {b : UInt8} (hb : b ∈ String.utf8EncodeChar c) :
    128 ≤ b.toNat := by
  have hvalid : c.val.toNat < 0xD800 ∨ (0xDFFF < c.val.toNat ∧ c.val.toNat < 0x110000) := c.valid
  have hgt : ¬ c.val.toNat ≤ 127 := fun hle ↦ h (Nat.lt_succ_of_le hle)
  simp only [String.utf8EncodeChar, if_neg hgt] at hb
  generalize c.val.toNat = v at *
  -- the byte is the first one of its character, or a continuation byte
  split at hb
  · rcases List.mem_pair.1 hb with rfl | rfl <;> simp <;> omega
  · split at hb
    · rcases List.mem_cons.1 hb with rfl | hb
      · simp
        omega
      · rcases List.mem_pair.1 hb with rfl | rfl <;> simp <;> omega
    · rcases List.mem_cons.1 hb with rfl | hb
      · simp
        omega
      · rcases List.mem_cons.1 hb with rfl | hb
        · simp
          omega
        · rcases List.mem_pair.1 hb with rfl | rfl <;> simp <;> omega

theorem toNat_toUInt8 (h : IsAscii c) : c.toUInt8.toNat = c.val.toNat := by
  rw [Char.toUInt8, UInt32.toNat_toUInt8]
  exact Nat.mod_eq_of_lt (Nat.lt_trans h (by decide))

/-- **A byte of ASCII is a character of its own.** -/
theorem eq_of_mem_utf8EncodeChar (ha : IsAscii a) (h : a.toUInt8 ∈ String.utf8EncodeChar c) :
    c = a := by
  by_cases hc : IsAscii c
  · rw [utf8EncodeChar_of_isAscii hc, List.mem_singleton] at h
    have hnat := congrArg UInt8.toNat h
    rw [toNat_toUInt8 ha, toNat_toUInt8 hc] at hnat
    exact Char.ext (UInt32.toNat_inj.1 hnat.symm)
  · have hle := le_of_mem_utf8EncodeChar hc h
    rw [toNat_toUInt8 ha] at hle
    exact absurd ha (Nat.not_lt.2 hle)

theorem toUInt8_inj (hc : IsAscii c) (ha : IsAscii a) : c.toUInt8 = a.toUInt8 ↔ c = a := by
  constructor
  · intro h
    exact eq_of_mem_utf8EncodeChar ha (by rw [utf8EncodeChar_of_isAscii hc, h]; simp)
  · rintro rfl
    rfl

@[simp] theorem encode_cons_of_isAscii (h : IsAscii c) (cs : List Char) :
    encode (c :: cs) = c.toUInt8 :: encode cs := by
  rw [encode_cons, utf8EncodeChar_of_isAscii h, List.singleton_append]

/-- A text of ASCII has as many bytes as characters. -/
theorem length_encode_of_isAscii (h : ∀ c ∈ cs, IsAscii c) : (encode cs).length = cs.length := by
  induction cs with
  | nil => rfl
  | cons c cs ih =>
    rw [encode_cons_of_isAscii (h c (List.mem_cons_self ..)), List.length_cons, List.length_cons,
      ih fun d hd ↦ h d (List.mem_cons_of_mem _ hd)]

/-- An encoded text starts with a byte of ASCII exactly if the text starts with that character. -/
theorem head?_encode_eq_iff (ha : IsAscii a) :
    (encode cs).head? = some a.toUInt8 ↔ cs.head? = some a := by
  cases cs with
  | nil => simp [encode]
  | cons c cs =>
    rw [encode_cons, List.head?_append_of_ne_nil _ (utf8EncodeChar_ne_nil c), List.head?_cons,
      Option.some.injEq]
    constructor
    · exact fun h ↦ eq_of_mem_utf8EncodeChar ha (List.mem_of_head? h)
    · rintro rfl
      rw [utf8EncodeChar_of_isAscii ha, List.head?_cons]

/-! ### Scans -/

/-- **A scan of bytes is a scan of characters** if it takes all bytes of the characters to take, and
stops at the first byte of the others. -/
theorem takeWhile_encode {p : UInt8 → Bool} {q : Char → Bool}
    (htake : ∀ c, q c = true → ∀ b ∈ String.utf8EncodeChar c, p b = true)
    (hstop : ∀ c, q c = false → ∀ b ∈ (String.utf8EncodeChar c).head?, p b = false)
    (cs : List Char) :
    (encode cs).takeWhile p = encode (cs.takeWhile q) ∧
      (encode cs).dropWhile p = encode (cs.dropWhile q) := by
  induction cs with
  | nil => exact ⟨rfl, rfl⟩
  | cons c cs ih =>
    rw [encode_cons]
    cases hq : q c with
    | true =>
      rw [List.takeWhile_append_of_pos (htake c hq), List.dropWhile_append_of_pos (htake c hq),
        List.takeWhile_cons_of_pos hq, List.dropWhile_cons_of_pos hq, encode_cons, ih.1, ih.2]
      exact ⟨rfl, rfl⟩
    | false =>
      obtain ⟨b, bs, hbytes⟩ := List.exists_cons_of_ne_nil (utf8EncodeChar_ne_nil c)
      have hb : ¬ p b = true := by simp [hstop c hq b (by simp [hbytes])]
      have hc : ¬ q c = true := by simp [hq]
      rw [List.takeWhile_cons_of_neg hc, List.dropWhile_cons_of_neg hc, encode_cons, hbytes,
        List.cons_append, List.takeWhile_cons_of_neg hb, List.dropWhile_cons_of_neg hb]
      exact ⟨rfl, rfl⟩

/-- A scan for the first character that is not a given one. -/
theorem takeWhile_eq_encode (ha : IsAscii a) (cs : List Char) :
    (encode cs).takeWhile (· = a.toUInt8) = encode (cs.takeWhile (· = a)) ∧
      (encode cs).dropWhile (· = a.toUInt8) = encode (cs.dropWhile (· = a)) := by
  refine takeWhile_encode (fun c hc b hb ↦ ?_) (fun c hc b hb ↦ ?_) cs
  · obtain rfl : c = a := by simpa using hc
    rw [utf8EncodeChar_of_isAscii ha, List.mem_singleton] at hb
    simpa using hb
  · have hne : c ≠ a := by simpa using hc
    simp only [decide_eq_false_iff_not]
    rintro rfl
    exact hne (eq_of_mem_utf8EncodeChar ha (List.mem_of_head? hb))

/-- A scan for the first occurrence of a given character. -/
theorem takeWhile_ne_encode (ha : IsAscii a) (cs : List Char) :
    (encode cs).takeWhile (· ≠ a.toUInt8) = encode (cs.takeWhile (· ≠ a)) ∧
      (encode cs).dropWhile (· ≠ a.toUInt8) = encode (cs.dropWhile (· ≠ a)) := by
  refine takeWhile_encode (fun c hc b hb ↦ ?_) (fun c hc b hb ↦ ?_) cs
  · have hne : c ≠ a := by simpa using hc
    simp only [decide_eq_true_eq]
    rintro rfl
    exact hne (eq_of_mem_utf8EncodeChar ha hb)
  · obtain rfl : c = a := by simpa using hc
    rw [utf8EncodeChar_of_isAscii ha, List.head?_cons, Option.mem_some_iff] at hb
    simpa using hb.symm

/-- A text of ASCII starts another text exactly if its bytes start the bytes of that. -/
theorem isPrefixOf_encode {marker : List Char} (h : ∀ c ∈ marker, IsAscii c) (cs : List Char) :
    (encode marker).isPrefixOf (encode cs) = marker.isPrefixOf cs := by
  induction marker generalizing cs with
  | nil => simp [encode, List.isPrefixOf]
  | cons a marker ih =>
    have ha := h a (List.mem_cons_self ..)
    have hrest := ih fun c hc ↦ h c (List.mem_cons_of_mem _ hc)
    rw [encode_cons_of_isAscii ha]
    cases cs with
    | nil => rfl
    | cons c cs =>
      by_cases hc : c = a
      · subst hc
        rw [encode_cons_of_isAscii ha, List.isPrefixOf, List.isPrefixOf, hrest, beq_self_eq_true,
          beq_self_eq_true]
      · obtain ⟨b, bs, hbytes⟩ := List.exists_cons_of_ne_nil (utf8EncodeChar_ne_nil c)
        have hb : a.toUInt8 ≠ b := by
          rintro rfl
          exact hc (eq_of_mem_utf8EncodeChar ha (by simp [hbytes]))
        rw [encode_cons, hbytes, List.cons_append, List.isPrefixOf, List.isPrefixOf,
          beq_eq_false_iff_ne.2 hb, beq_eq_false_iff_ne.2 (Ne.symm hc), Bool.false_and,
          Bool.false_and]

end LuaBundler.Text
