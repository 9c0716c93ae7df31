import LuaBundler.Text.Utf8

/-!
# The secure hashes

SHA-256: the message is padded to a whole number of 64-byte blocks (`length_pad`), each block is
expanded to sixty-four words and compressed into eight words of state, and the state is written in
hexadecimal.

SHA-1 pads the message in the same way; each block is expanded to eighty words and mixed into five
words of state. SHA-512 works as SHA-256 does, on words of sixty-four bits and blocks of 128 bytes.
SHA-384 and SHA-224 start from other states, and are cut off.
-/

namespace LuaBundler.Digest

open LuaBundler.Text

/-! ### Words -/

/-- A word rotated to the right. -/
def rotate (w : UInt32) (n : UInt32) : UInt32 :=
  (w >>> n) ||| (w <<< (32 - n))

/-- The small mixing of the message schedule, of the word fifteen steps back. -/
def sigma0 (w : UInt32) : UInt32 := rotate w 7 ^^^ rotate w 18 ^^^ (w >>> 3)

/-- The small mixing of the message schedule, of the word two steps back. -/
def sigma1 (w : UInt32) : UInt32 := rotate w 17 ^^^ rotate w 19 ^^^ (w >>> 10)

/-- The mixing of the first working word. -/
def bigSigma0 (w : UInt32) : UInt32 := rotate w 2 ^^^ rotate w 13 ^^^ rotate w 22

/-- The mixing of the fifth working word. -/
def bigSigma1 (w : UInt32) : UInt32 := rotate w 6 ^^^ rotate w 11 ^^^ rotate w 25

/-- Each bit from `x` or `y`, as `w` selects. -/
def choose (w x y : UInt32) : UInt32 := (w &&& x) ^^^ ((~~~ w) &&& y)

/-- Each bit as most of the three words have it. -/
def majority (w x y : UInt32) : UInt32 := (w &&& x) ^^^ (w &&& y) ^^^ (x &&& y)

/-- The round constants: fractional parts of the cube roots of the first sixty-four primes. -/
def roundConstants : List UInt32 := [
  0x428a2f98, 0x71374491, 0xb5c0fbcf, 0xe9b5dba5, 0x3956c25b, 0x59f111f1, 0x923f82a4, 0xab1c5ed5,
  0xd807aa98, 0x12835b01, 0x243185be, 0x550c7dc3, 0x72be5d74, 0x80deb1fe, 0x9bdc06a7, 0xc19bf174,
  0xe49b69c1, 0xefbe4786, 0x0fc19dc6, 0x240ca1cc, 0x2de92c6f, 0x4a7484aa, 0x5cb0a9dc, 0x76f988da,
  0x983e5152, 0xa831c66d, 0xb00327c8, 0xbf597fc7, 0xc6e00bf3, 0xd5a79147, 0x06ca6351, 0x14292967,
  0x27b70a85, 0x2e1b2138, 0x4d2c6dfc, 0x53380d13, 0x650a7354, 0x766a0abb, 0x81c2c92e, 0x92722c85,
  0xa2bfe8a1, 0xa81a664b, 0xc24b8b70, 0xc76c51a3, 0xd192e819, 0xd6990624, 0xf40e3585, 0x106aa070,
  0x19a4c116, 0x1e376c08, 0x2748774c, 0x34b0bcb5, 0x391c0cb3, 0x4ed8aa4a, 0x5b9cca4f, 0x682e6ff3,
  0x748f82ee, 0x78a5636f, 0x84c87814, 0x8cc70208, 0x90befffa, 0xa4506ceb, 0xbef9a3f7, 0xc67178f2]

/-! ### State -/

/-- The eight words that blocks are compressed into. -/
structure State where
  a : UInt32
  b : UInt32
  c : UInt32
  d : UInt32
  e : UInt32
  f : UInt32
  g : UInt32
  h : UInt32
  deriving Repr, DecidableEq

/-- The state before any block: fractional parts of the square roots of the first eight primes. -/
def State.initial : State :=
  ⟨0x6a09e667, 0xbb67ae85, 0x3c6ef372, 0xa54ff53a, 0x510e527f, 0x9b05688c, 0x1f83d9ab, 0x5be0cd19⟩

/-- One round with its constant and its word of the schedule. -/
def State.round (s : State) (input : UInt32 × UInt32) : State :=
  let t1 := s.h + bigSigma1 s.e + choose s.e s.f s.g + input.1 + input.2
  let t2 := bigSigma0 s.a + majority s.a s.b s.c
  ⟨t1 + t2, s.a, s.b, s.c, s.d + t1, s.e, s.f, s.g⟩

/-- Two states added word by word. -/
def State.add (s t : State) : State :=
  ⟨s.a + t.a, s.b + t.b, s.c + t.c, s.d + t.d, s.e + t.e, s.f + t.f, s.g + t.g, s.h + t.h⟩

/-- The words of a state in order. -/
def State.words (s : State) : List UInt32 :=
  [s.a, s.b, s.c, s.d, s.e, s.f, s.g, s.h]

/-! ### Blocks -/

/-- The bytes of a number, most significant first. -/
def bigEndian : Nat → Nat → Bytes
  | 0, _ => []
  | size + 1, n => bigEndian size (n / 256) ++ [UInt8.ofNat (n % 256)]

/-- The message with a set bit, zeros, and its length in bits. -/
def pad (message : Bytes) : Bytes :=
  message ++ 0x80 :: List.replicate ((119 - message.length % 64) % 64) 0 ++
    bigEndian 8 (message.length * 8 % Nat.pow 2 64)

/-- The big-endian words of a byte sequence whose length is a multiple of four. -/
def toWords : Bytes → List UInt32
  | a :: b :: c :: d :: rest =>
    ((a.toUInt32 <<< 24) ||| (b.toUInt32 <<< 16) ||| (c.toUInt32 <<< 8) ||| d.toUInt32) ::
      toWords rest
  | _ => []

/-- The next word of the schedule from the sixteen before it. -/
def nextWord (window : List UInt32) : UInt32 :=
  window.getD 0 0 + sigma0 (window.getD 1 0) + window.getD 9 0 + sigma1 (window.getD 14 0)

/-- The schedule from a window of sixteen words on. -/
def scheduleFrom : Nat → List UInt32 → List UInt32
  | 0, window => window
  | count + 1, window =>
    window.head?.toList ++ scheduleFrom count (window.drop 1 ++ [nextWord window])

/-- The sixty-four words of a block. -/
def schedule (block : Bytes) : List UInt32 :=
  scheduleFrom 48 (toWords block)

/-- Compresses a block into the state. -/
def compress (s : State) (block : Bytes) : State :=
  s.add ((roundConstants.zip (schedule block)).foldl State.round s)

/-- Compresses so many blocks. -/
def compressBlocks : Nat → State → Bytes → State
  | 0, s, _ => s
  | count + 1, s, bytes => compressBlocks count (compress s (bytes.take 64)) (bytes.drop 64)

/-! ### Digests -/

/-- The hexadecimal digits of a number, so many of them. -/
def hex : Nat → Nat → List Char
  | 0, _ => []
  | size + 1, n => hex size (n / 16) ++ [Nat.digitChar (n % 16)]

/-- The digest of a message in lower-case hexadecimal. -/
def sha256 (message : Bytes) : String :=
  let padded := pad message
  String.ofList ((compressBlocks (padded.length / 64) .initial padded).words.flatMap fun w =>
    hex 8 w.toNat)

/-! ### Lengths -/

@[simp] theorem length_bigEndian (size n : Nat) : (bigEndian size n).length = size := by
  induction size generalizing n with
  | zero => rfl
  | succ size ih => simp [bigEndian, ih]

/-- A padded message is a whole number of blocks. -/
theorem length_pad (message : Bytes) : (pad message).length % 64 = 0 := by
  simp only [pad, List.length_append, List.length_cons, List.length_replicate, length_bigEndian]
  omega

@[simp] theorem length_hex (size n : Nat) : (hex size n).length = size := by
  induction size generalizing n with
  | zero => rfl
  | succ size ih => simp [hex, ih]

/-- A digest has sixty-four digits. -/
theorem length_sha256 (message : Bytes) : (sha256 message).length = 64 := by
  simp [sha256, State.words]

end LuaBundler.Digest

/-! ### SHA-1 -/

namespace LuaBundler.Digest.Sha1

open LuaBundler.Text

/-- The five words that blocks are mixed into. -/
structure State where
  a : UInt32
  b : UInt32
  c : UInt32
  d : UInt32
  e : UInt32

/-- The state before any block. -/
def State.initial : State :=
  ⟨0x67452301, 0xefcdab89, 0x98badcfe, 0x10325476, 0xc3d2e1f0⟩

/-- A word rotated to the left. -/
def rotateLeft (w n : UInt32) : UInt32 :=
  rotate w (32 - n)

/-- A round of a quarter with its word. -/
def State.round (s : State) (quarter : Nat) (word : UInt32) : State :=
  let (mixed, constant) : UInt32 × UInt32 := match quarter with
    | 0 => (choose s.b s.c s.d, 0x5a827999)
    | 1 => (s.b ^^^ s.c ^^^ s.d, 0x6ed9eba1)
    | 2 => (majority s.b s.c s.d, 0x8f1bbcdc)
    | _ => (s.b ^^^ s.c ^^^ s.d, 0xca62c1d6)
  ⟨rotateLeft s.a 5 + mixed + s.e + constant + word, s.a, rotateLeft s.b 30, s.c, s.d⟩

/-- The schedule from a window of sixteen words on. -/
def scheduleFrom : Nat → List UInt32 → List UInt32
  | 0, window => window
  | count + 1, window =>
    let word (i : Nat) : UInt32 := window.getD i 0
    window.head?.toList ++ scheduleFrom count
      (window.drop 1 ++ [rotateLeft (word 13 ^^^ word 8 ^^^ word 2 ^^^ word 0) 1])

/-- Mixes a block into the state. -/
def compress (s : State) (block : Bytes) : State :=
  let t := ((List.range 80).zip (scheduleFrom 64 (toWords block))).foldl
    (fun s (i, word) => s.round (i / 20) word) s
  ⟨s.a + t.a, s.b + t.b, s.c + t.c, s.d + t.d, s.e + t.e⟩

/-- Mixes so many blocks. -/
def compressBlocks : Nat → State → Bytes → State
  | 0, s, _ => s
  | count + 1, s, bytes => compressBlocks count (compress s (bytes.take 64)) (bytes.drop 64)

end LuaBundler.Digest.Sha1

namespace LuaBundler.Digest

open LuaBundler.Text

/-- The digest of a message by SHA-1 in lower-case hexadecimal. -/
def sha1 (message : Bytes) : String :=
  let bytes := pad message
  let s := Sha1.compressBlocks (bytes.length / 64) .initial bytes
  String.ofList ([s.a, s.b, s.c, s.d, s.e].flatMap fun w => hex 8 w.toNat)

end LuaBundler.Digest

/-! ### SHA-512 and its relatives -/

namespace LuaBundler.Digest.Sha512

open LuaBundler.Text

/-- A word rotated to the right. -/
def rotate64 (w n : UInt64) : UInt64 :=
  (w >>> n) ||| (w <<< (64 - n))

/-- The round constants: fractional parts of the cube roots of the first eighty primes. -/
def roundConstants : List UInt64 := [
  0x428a2f98d728ae22, 0x7137449123ef65cd, 0xb5c0fbcfec4d3b2f, 0xe9b5dba58189dbbc,
  0x3956c25bf348b538, 0x59f111f1b605d019, 0x923f82a4af194f9b, 0xab1c5ed5da6d8118,
  0xd807aa98a3030242, 0x12835b0145706fbe, 0x243185be4ee4b28c, 0x550c7dc3d5ffb4e2,
  0x72be5d74f27b896f, 0x80deb1fe3b1696b1, 0x9bdc06a725c71235, 0xc19bf174cf692694,
  0xe49b69c19ef14ad2, 0xefbe4786384f25e3, 0x0fc19dc68b8cd5b5, 0x240ca1cc77ac9c65,
  0x2de92c6f592b0275, 0x4a7484aa6ea6e483, 0x5cb0a9dcbd41fbd4, 0x76f988da831153b5,
  0x983e5152ee66dfab, 0xa831c66d2db43210, 0xb00327c898fb213f, 0xbf597fc7beef0ee4,
  0xc6e00bf33da88fc2, 0xd5a79147930aa725, 0x06ca6351e003826f, 0x142929670a0e6e70,
  0x27b70a8546d22ffc, 0x2e1b21385c26c926, 0x4d2c6dfc5ac42aed, 0x53380d139d95b3df,
  0x650a73548baf63de, 0x766a0abb3c77b2a8, 0x81c2c92e47edaee6, 0x92722c851482353b,
  0xa2bfe8a14cf10364, 0xa81a664bbc423001, 0xc24b8b70d0f89791, 0xc76c51a30654be30,
  0xd192e819d6ef5218, 0xd69906245565a910, 0xf40e35855771202a, 0x106aa07032bbd1b8,
  0x19a4c116b8d2d0c8, 0x1e376c085141ab53, 0x2748774cdf8eeb99, 0x34b0bcb5e19b48a8,
  0x391c0cb3c5c95a63, 0x4ed8aa4ae3418acb, 0x5b9cca4f7763e373, 0x682e6ff3d6b2b8a3,
  0x748f82ee5defb2fc, 0x78a5636f43172f60, 0x84c87814a1f0ab72, 0x8cc702081a6439ec,
  0x90befffa23631e28, 0xa4506cebde82bde9, 0xbef9a3f7b2c67915, 0xc67178f2e372532b,
  0xca273eceea26619c, 0xd186b8c721c0c207, 0xeada7dd6cde0eb1e, 0xf57d4f7fee6ed178,
  0x06f067aa72176fba, 0x0a637dc5a2c898a6, 0x113f9804bef90dae, 0x1b710b35131c471b,
  0x28db77f523047d84, 0x32caab7b40c72493, 0x3c9ebe0a15c9bebc, 0x431d67c49c100d4c,
  0x4cc5d4becb3e42b6, 0x597f299cfc657e2a, 0x5fcb6fab3ad6faec, 0x6c44198c4a475817]

/-- The state before any block. -/
def initial512 : List UInt64 := [
  0x6a09e667f3bcc908, 0xbb67ae8584caa73b, 0x3c6ef372fe94f82b, 0xa54ff53a5f1d36f1,
  0x510e527fade682d1, 0x9b05688c2b3e6c1f, 0x1f83d9abfb41bd6b, 0x5be0cd19137e2179]

/-- The state of SHA-384 before any block. -/
def initial384 : List UInt64 := [
  0xcbbb9d5dc1059ed8, 0x629a292a367cd507, 0x9159015a3070dd17, 0x152fecd8f70e5939,
  0x67332667ffc00b31, 0x8eb44a8768581511, 0xdb0c2e0d64f98fa7, 0x47b5481dbefa4fa4]

/-- The next word of the schedule from the sixteen before it. -/
def nextWord (window : List UInt64) : UInt64 :=
  let word (i : Nat) : UInt64 := window.getD i 0
  let small (w a b c : UInt64) : UInt64 := rotate64 w a ^^^ rotate64 w b ^^^ (w >>> c)
  word 0 + small (word 1) 1 8 7 + word 9 + small (word 14) 19 61 6

/-- The schedule from a window of sixteen words on. -/
def scheduleFrom : Nat → List UInt64 → List UInt64
  | 0, window => window
  | count + 1, window =>
    window.head?.toList ++ scheduleFrom count (window.drop 1 ++ [nextWord window])

/-- One round with its constant and its word of the schedule. -/
def round (state : List UInt64) (input : UInt64 × UInt64) : List UInt64 :=
  let large (w a b c : UInt64) : UInt64 := rotate64 w a ^^^ rotate64 w b ^^^ rotate64 w c
  match state with
  | [a, b, c, d, e, f, g, h] =>
    let t1 := h + large e 14 18 41 + ((e &&& f) ^^^ ((~~~ e) &&& g)) + input.1 + input.2
    let t2 := large a 28 34 39 + ((a &&& b) ^^^ (a &&& c) ^^^ (b &&& c))
    [t1 + t2, a, b, c, d + t1, e, f, g]
  | state => state

/-- The big-endian words of a byte sequence whose length is a multiple of eight. -/
def toWords64 (bytes : Bytes) : List UInt64 :=
  let rec pairs : List UInt32 → List UInt64
    | a :: b :: rest => ((a.toUInt64 <<< 32) ||| b.toUInt64) :: pairs rest
    | _ => []
  pairs (toWords bytes)

/-- Compresses a block into the state. -/
def compress (state : List UInt64) (block : Bytes) : List UInt64 :=
  let t := (roundConstants.zip (scheduleFrom 64 (toWords64 block))).foldl round state
  List.zipWith (· + ·) state t

/-- Compresses so many blocks. -/
def compressBlocks : Nat → List UInt64 → Bytes → List UInt64
  | 0, s, _ => s
  | count + 1, s, bytes => compressBlocks count (compress s (bytes.take 128)) (bytes.drop 128)

/-- The message with a set bit, zeros, and its length in bits. -/
def padded (message : Bytes) : Bytes :=
  message ++ 0x80 :: List.replicate ((239 - message.length % 128) % 128) 0 ++
    bigEndian 16 (message.length * 8)

/-- The digest of a message from a state on. -/
def digest (state : List UInt64) (message : Bytes) : String :=
  let bytes := padded message
  String.ofList ((compressBlocks (bytes.length / 128) state bytes).flatMap fun w => hex 16 w.toNat)

end LuaBundler.Digest.Sha512

namespace LuaBundler.Digest

open LuaBundler.Text

/-- The digest of a message by SHA-512 in lower-case hexadecimal. -/
def sha512 (message : Bytes) : String :=
  Sha512.digest Sha512.initial512 message

/-- The digest of a message by SHA-384 in lower-case hexadecimal. -/
def sha384 (message : Bytes) : String :=
  String.ofList ((Sha512.digest Sha512.initial384 message).toList.take 96)

/-- The state of SHA-224 before any block. -/
def State.initial224 : State :=
  ⟨0xc1059ed8, 0x367cd507, 0x3070dd17, 0xf70e5939,
    0xffc00b31, 0x68581511, 0x64f98fa7, 0xbefa4fa4⟩

/-- The digest of a message by SHA-224 in lower-case hexadecimal. -/
def sha224 (message : Bytes) : String :=
  let bytes := pad message
  let words := (compressBlocks (bytes.length / 64) .initial224 bytes).words.take 7
  String.ofList (words.flatMap fun w => hex 8 w.toNat)

end LuaBundler.Digest
