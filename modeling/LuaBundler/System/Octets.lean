import LuaBundler.Text.Utf8

/-!
# Texts of octets

Programs on a system handle bytes, whatever text they spell. An octet text is a string that has one
character for each byte, the character whose number the byte is. `octets` spells a text in octets,
`readOctets` reads the text that octets spell, and a text that is well formed is read as it was.
-/

namespace LuaBundler.System

open Text

/-- The character that stands for a byte. -/
def octet (b : UInt8) : Char :=
  Char.ofNat b.toNat

/-- The byte that a character stands for. -/
def octetByte (c : Char) : UInt8 :=
  UInt8.ofNat c.toNat

/-- The octets of bytes. -/
def octetsOfBytes (bs : Bytes) : String :=
  String.ofList (bs.map octet)

/-- The bytes of an octet text. -/
def bytesOfOctets (s : String) : Bytes :=
  s.toList.map octetByte

/-- The octets of a packed byte sequence. -/
def octetsOfArray (bs : ByteArray) : String :=
  bs.foldl (fun s b => s.push (octet b)) ""

/-- The packed bytes of an octet text. -/
def arrayOfOctets (s : String) : ByteArray :=
  s.foldl (fun bs c => bs.push (octetByte c)) ByteArray.empty

/-- The packed form of a byte sequence. -/
def packed (bs : Bytes) : ByteArray :=
  ⟨bs.toArray⟩

/-- A text spelled in octets. -/
def octets (s : String) : String :=
  octetsOfBytes (encodeString s)

/-- The text that octets spell, with U+FFFD for what is not well formed. -/
def readOctets (s : String) : String :=
  lossyString (bytesOfOctets s)

theorem octetByte_octet (b : UInt8) : octetByte (octet b) = b := by
  have h : b.toNat < 256 := b.toNat_lt
  have hv : (Char.ofNat b.toNat).toNat = b.toNat := by
    have hvalid : b.toNat.isValidChar := Or.inl (by omega)
    rw [Char.ofNat, dif_pos hvalid]
    rfl
  simp [octetByte, octet, hv]

/-- Octets give back the bytes that they stand for. -/
theorem bytesOfOctets_octetsOfBytes (bs : Bytes) : bytesOfOctets (octetsOfBytes bs) = bs := by
  simp [bytesOfOctets, octetsOfBytes, octetByte_octet, Function.comp_def]

/-- Spelling a text in octets and reading them is decoding the text's own bytes. -/
theorem readOctets_octets (s : String) : readOctets (octets s) = lossyString (encodeString s) := by
  simp [readOctets, octets, bytesOfOctets_octetsOfBytes]

end LuaBundler.System
