import LuaBundler.Digest.Sha

/-!
# MD5

The message is padded as for SHA-256, but all words have their least significant byte first. Each
block is mixed into four words of state in sixty-four rounds.
-/

namespace LuaBundler.Digest.Md5

open LuaBundler.Text

/-- The round constants: the integer parts of 2³² times the sines of the first numbers. -/
def roundConstants : List UInt32 := [
  0xd76aa478, 0xe8c7b756, 0x242070db, 0xc1bdceee, 0xf57c0faf, 0x4787c62a, 0xa8304613, 0xfd469501,
  0x698098d8, 0x8b44f7af, 0xffff5bb1, 0x895cd7be, 0x6b901122, 0xfd987193, 0xa679438e, 0x49b40821,
  0xf61e2562, 0xc040b340, 0x265e5a51, 0xe9b6c7aa, 0xd62f105d, 0x02441453, 0xd8a1e681, 0xe7d3fbc8,
  0x21e1cde6, 0xc33707d6, 0xf4d50d87, 0x455a14ed, 0xa9e3e905, 0xfcefa3f8, 0x676f02d9, 0x8d2a4c8a,
  0xfffa3942, 0x8771f681, 0x6d9d6122, 0xfde5380c, 0xa4beea44, 0x4bdecfa9, 0xf6bb4b60, 0xbebfbc70,
  0x289b7ec6, 0xeaa127fa, 0xd4ef3085, 0x04881d05, 0xd9d4d039, 0xe6db99e5, 0x1fa27cf8, 0xc4ac5665,
  0xf4292244, 0x432aff97, 0xab9423a7, 0xfc93a039, 0x655b59c3, 0x8f0ccc92, 0xffeff47d, 0x85845dd1,
  0x6fa87e4f, 0xfe2ce6e0, 0xa3014314, 0x4e0811a1, 0xf7537e82, 0xbd3af235, 0x2ad7d2bb, 0xeb86d391]

/-- How far each round rotates. -/
def rotations : List UInt32 :=
  [[7, 12, 17, 22], [5, 9, 14, 20], [4, 11, 16, 23], [6, 10, 15, 21]].flatMap fun r =>
    (List.replicate 4 r).flatten

/-- The word of the block that each round takes. -/
def positions : List Nat :=
  (List.range 64).map fun i =>
    match i / 16 with
    | 0 => i
    | 1 => (5 * i + 1) % 16
    | 2 => (3 * i + 5) % 16
    | _ => 7 * i % 16

/-- The four words that blocks are mixed into. -/
structure State where
  a : UInt32
  b : UInt32
  c : UInt32
  d : UInt32

/-- The state before any block. -/
def State.initial : State :=
  ⟨0x67452301, 0xefcdab89, 0x98badcfe, 0x10325476⟩

/-- What the other three words add to the first one, in each quarter of the rounds. -/
def State.mix (s : State) (quarter : Nat) : UInt32 :=
  match quarter with
  | 0 => (s.b &&& s.c) ||| ((~~~ s.b) &&& s.d)
  | 1 => (s.d &&& s.b) ||| ((~~~ s.d) &&& s.c)
  | 2 => s.b ^^^ s.c ^^^ s.d
  | _ => s.c ^^^ (s.b ||| ~~~ s.d)

/-- A round of a quarter, with its constant, its rotation and its word. -/
def State.round (s : State) (quarter : Nat) (constant turn word : UInt32) : State :=
  let sum := s.a + s.mix quarter + constant + word
  ⟨s.d, s.b + rotate sum (32 - turn), s.b, s.c⟩

/-- A number with its four bytes in the other order. -/
def swapped (w : UInt32) : UInt32 :=
  (w <<< 24) ||| ((w &&& (0xff00 : UInt32)) <<< 8) ||| ((w >>> 8) &&& (0xff00 : UInt32)) |||
    (w >>> 24)

/-- Mixes a block into the state. -/
def compress (s : State) (block : Bytes) : State :=
  let words := ((toWords block).map swapped).toArray
  let rounds := (List.range 64).zip (roundConstants.zip (rotations.zip positions))
  let t := rounds.foldl (fun s (i, constant, turn, at_) =>
    s.round (i / 16) constant turn (words.getD at_ 0)) s
  ⟨s.a + t.a, s.b + t.b, s.c + t.c, s.d + t.d⟩

/-- Mixes so many blocks. -/
def compressBlocks : Nat → State → Bytes → State
  | 0, s, _ => s
  | count + 1, s, bytes => compressBlocks count (compress s (bytes.take 64)) (bytes.drop 64)

/-- The message with a set bit, zeros, and its length in bits. -/
def padded (message : Bytes) : Bytes :=
  message ++ 0x80 :: List.replicate ((119 - message.length % 64) % 64) 0 ++
    (bigEndian 8 (message.length * 8 % Nat.pow 2 64)).reverse

end LuaBundler.Digest.Md5

namespace LuaBundler.Digest

open LuaBundler.Text

/-- The digest of a message by MD5 in lower-case hexadecimal. -/
def md5 (message : Bytes) : String :=
  let bytes := Md5.padded message
  let s := Md5.compressBlocks (bytes.length / 64) .initial bytes
  String.ofList ([s.a, s.b, s.c, s.d].flatMap fun w => hex 8 (Md5.swapped w).toNat)

end LuaBundler.Digest
