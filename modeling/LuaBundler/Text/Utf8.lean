/-!
# UTF-8

Encoding a text and decoding bytes. Decoding cuts the bytes into pieces (`decodePieces`): a
character for each well-formed sequence, and `none` for each longest run of bytes that starts a
well-formed sequence without finishing it, or for a single byte that starts none. The lossy reading
puts U+FFFD for each such piece; the strict reading accepts no such piece.
-/

namespace LuaBundler.Text

/-- The bytes of a file, a stream or an encoded text. -/
abbrev Bytes := List UInt8

/-- The UTF-8 bytes of a text. -/
def encode (cs : List Char) : Bytes :=
  cs.flatMap String.utf8EncodeChar

/-- The UTF-8 bytes of a string. -/
def encodeString (s : String) : Bytes :=
  encode s.toList

/-- The number of bytes of a text. -/
def byteLength : List Char → Nat
  | [] => 0
  | c :: cs => c.utf8Size + byteLength cs

theorem byteLength_append (cs ds : List Char) :
    byteLength (cs ++ ds) = byteLength cs + byteLength ds := by
  induction cs with
  | nil => simp [byteLength]
  | cons c cs ih => simp [byteLength, ih, Nat.add_assoc]

/-- Encoding a text gives as many bytes as the text is said to have. -/
theorem length_encode (cs : List Char) : (encode cs).length = byteLength cs := by
  induction cs with
  | nil => rfl
  | cons c cs ih => simpa [encode, byteLength] using ih

/-- What may follow the first byte of a sequence: the payload of the first byte, the range of the
second byte, and how many bytes come after the second. -/
structure Lead where
  payload : Nat
  low : UInt8
  high : UInt8
  more : Nat

/-- The leads of the sequences of two, three and four bytes. -/
def Lead.ofByte? (b : UInt8) : Option Lead :=
  if 0xC2 ≤ b ∧ b ≤ 0xDF then some ⟨b.toNat - 0xC0, 0x80, 0xBF, 0⟩
  else if b = 0xE0 then some ⟨0, 0xA0, 0xBF, 1⟩
  else if b = 0xED then some ⟨0xD, 0x80, 0x9F, 1⟩
  else if 0xE1 ≤ b ∧ b ≤ 0xEF then some ⟨b.toNat - 0xE0, 0x80, 0xBF, 1⟩
  else if b = 0xF0 then some ⟨0, 0x90, 0xBF, 2⟩
  else if 0xF1 ≤ b ∧ b ≤ 0xF3 then some ⟨b.toNat - 0xF0, 0x80, 0xBF, 2⟩
  else if b = 0xF4 then some ⟨4, 0x80, 0x8F, 2⟩
  else none

/-- Reads the continuation bytes of a sequence. The first one has a range of its own; the result
is the code point if the sequence is complete, and how many bytes belong to it. -/
def continuation (payload : Nat) (low high : UInt8) : Nat → Bytes → Option Nat × Nat
  | _, [] => (none, 0)
  | more, b :: bs =>
    if low ≤ b ∧ b ≤ high then
      let payload := payload * 64 + (b.toNat - 0x80)
      match more with
      | 0 => (some payload, 1)
      | more + 1 =>
        let (code, used) := continuation payload 0x80 0xBF more bs
        (code, used + 1)
    else (none, 0)

/-- The pieces of a byte sequence: characters, and `none` for what is not well formed. -/
def decodePieces : Bytes → List (Option Char)
  | [] => []
  | b :: bs =>
    if b < 0x80 then some (Char.ofNat b.toNat) :: decodePieces bs
    else match Lead.ofByte? b with
      | none => none :: decodePieces bs
      | some lead =>
        let (code, used) := continuation lead.payload lead.low lead.high lead.more bs
        code.map Char.ofNat :: decodePieces (bs.drop used)
termination_by bs => bs.length
decreasing_by
  all_goals
    simp only [List.length_drop, List.length_cons]
    omega

/-- The text of a byte sequence, with U+FFFD for every piece that is not well formed. -/
def decodeLossy (bs : Bytes) : List Char :=
  (decodePieces bs).map (·.getD '\ufffd')

/-- The text of a byte sequence that is well formed throughout. -/
def decode? (bs : Bytes) : Option (List Char) :=
  (decodePieces bs).mapM id

/-- The string of a byte sequence, with U+FFFD for every piece that is not well formed. -/
def lossyString (bs : Bytes) : String :=
  String.ofList (decodeLossy bs)

/-- The string of a byte sequence that is well formed throughout. -/
def string? (bs : Bytes) : Option String :=
  (decode? bs).map String.ofList

end LuaBundler.Text
