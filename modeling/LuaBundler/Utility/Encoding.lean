import LuaBundler.Utility.LineSource
import LuaBundler.Utility.Options

/-!
# Utilities: encoding

Writing bytes with the characters of an alphabet, several bits to a character. A group of characters
stands for a whole number of bytes; the last group is filled up with equals signs.
-/

namespace LuaBundler.Utility

open LuaBundler.Files LuaBundler.System LuaBundler.Text

/-- An alphabet of `2 ^ bits` characters, of which `group` stand for a whole number of bytes. -/
structure Alphabet where
  chars : Array Char
  bits : Nat
  group : Nat
  /-- How many characters a group may have before it is filled up. -/
  lengths : List Nat
  /-- Whether a group that is cut off stands for the bytes that are complete. -/
  readsPartOfGroup : Bool

namespace Alphabet

/-- The alphabet of sixty-four characters. -/
def base64 : Alphabet :=
  ⟨("ABCDEFGHIJKLMNOPQRSTUVWXYZabcdefghijklmnopqrstuvwxyz0123456789+/".toList).toArray, 6, 4,
    [2, 3, 4], true⟩

/-- The alphabet of thirty-two characters. -/
def base32 : Alphabet :=
  ⟨("ABCDEFGHIJKLMNOPQRSTUVWXYZ234567".toList).toArray, 5, 8, [2, 4, 5, 7, 8], false⟩

/-- The number of bytes that a group stands for. -/
def groupBytes (a : Alphabet) : Nat :=
  a.group * a.bits / 8

/-- The characters of a group of bytes. -/
def encodeGroup (a : Alphabet) (bytes : List UInt8) : List Char :=
  let n := bytes.foldl (fun n b => n * 256 + b.toNat) 0
  let all := n * Nat.pow 256 (a.groupBytes - bytes.length)
  let count := (bytes.length * 8 + a.bits - 1) / a.bits
  (List.range a.group).map fun i =>
    if i < count then
      a.chars.getD (all / Nat.pow 2 (a.bits * (a.group - 1 - i)) % Nat.pow 2 a.bits) '='
    else '='

/-- The characters of bytes. -/
def encode (a : Alphabet) : Nat → List UInt8 → List Char
  | 0, _ | _ + 1, [] => []
  | steps + 1, bytes =>
    a.encodeGroup (bytes.take a.groupBytes) ++ a.encode steps (bytes.drop a.groupBytes)

/-- The value of a character. -/
def value? (a : Alphabet) (c : Char) : Option Nat :=
  a.chars.findIdx? (· == c)

/-- The bytes of a group of characters, and whether it is right. -/
def decodeGroup (a : Alphabet) (cs : List Char) : List UInt8 × Bool :=
  let values := cs.filterMap a.value?
  let plain := cs.takeWhile fun c => (a.value? c).isSome
  let isRight := cs.length = a.group && a.lengths.contains plain.length &&
    (cs.drop plain.length).all (· = '=')
  let used := (a.lengths.filter (· ≤ plain.length)).getLast?.getD 0
  let count := if isRight || cs.length = a.group || a.readsPartOfGroup then used * a.bits / 8 else 0
  let n := (values.take used).foldl (fun n v => n * Nat.pow 2 a.bits + v) 0
  let all := n * Nat.pow 2 (a.bits * (a.group - used))
  ((List.range count).map fun i => UInt8.ofNat (all / Nat.pow 256 (a.groupBytes - 1 - i) % 256), isRight)

/-- The bytes of characters, the last one first, up to a group that is not right. -/
def decode (a : Alphabet) : Nat → List Char → List UInt8 → List UInt8 × Bool
  | 0, _, found | _ + 1, [], found => (found, true)
  | steps + 1, cs, found =>
    match a.decodeGroup (cs.take a.group) with
    | (bytes, true) => a.decode steps (cs.drop a.group) (bytes.reverse ++ found)
    | (bytes, false) => (bytes.reverse ++ found, false)

end Alphabet

/-- Characters in lines of a length; the last line has an end unless there are no lines. -/
def wrapped (length : Nat) (cs : List Char) : String :=
  if length = 0 then String.ofList cs
  else
    let (text, column) := cs.foldl (fun ((s, column) : String × Nat) c =>
      if column = length then ((s.push '\n').push c, 1) else (s.push c, column + 1)) ("", 0)
    if column = 0 then text else text.push '\n'

/-- Encodes a file by an alphabet, or decodes it. -/
def encodeBy (a : Alphabet) : Program := fun c =>
  c.withWords [⟨"d", ["decode"], .plain⟩, ⟨"i", ["ignore-garbage"], .plain⟩,
    ⟨"w", ["wrap"], .required⟩] fun w => do
  let width := (w.get? "w").getD "76"
  match natural? width, w.operands with
  | none, _ => c.fail 1 ("invalid wrap size: " ++ cited width)
  | _, _ :: extra :: _ => c.misused 1 ("extra operand " ++ cited extra)
  | some width, files =>
    let path := files.headD "-"
    match ← readFile path with
    | .error .isDirectory => c.fail 1 ("read error: " ++ FileError.isDirectory.reason)
    | .error e =>
      c.complainOf path e
      return 1
    | .ok text =>
      if w.has "d" then
        let isKept (ch : Char) : Bool :=
          if w.has "i" then (a.value? ch).isSome || ch = '=' else ch ≠ '\n'
        let cs := text.toList.filter isKept
        let (bytes, isRight) := a.decode (cs.length + 1) cs []
        match ← writeBytes 1 (packed bytes.reverse) with
        | some e => c.fail 1 ("write error: " ++ e.reason)
        | none => if isRight then return 0 else c.fail 1 "invalid input"
      else
        let bytes := bytesOfOctets text
        c.finish (wrapped width (a.encode (bytes.length + 1) bytes)) 0

/-- Encodes a file with sixty-four characters, or decodes it. -/
def base64 : Program := encodeBy .base64

/-- Encodes a file with thirty-two characters, or decodes it. -/
def base32 : Program := encodeBy .base32

end LuaBundler.Utility
