import LuaBundler.Text.Digits
import LuaBundler.Utility.Streams

/-!
# Utilities: dumps

Printing bytes as numbers of several sizes and bases, or as characters. The bytes come in blocks; a
block takes one line for each form it is printed in, and the fields of all forms line up. Blocks that
are the same as the one before them are left out, with a star in their place.
-/

namespace LuaBundler.Utility

open LuaBundler.Files LuaBundler.System LuaBundler.Text

namespace Dump

/-- How a field is printed. -/
inductive Style where
  | named
  | char
  | signed
  | unsigned
  | octal
  | hexadecimal
  deriving DecidableEq

/-- A form that blocks are printed in. -/
structure Form where
  style : Style
  /-- The number of bytes of a field. -/
  size : Nat
  /-- Whether the characters of the block are added. -/
  showsText : Bool := false

namespace Form

/-- The width of a field. -/
def width (f : Form) : Nat :=
  match f.style, f.size with
  | .named, _ | .char, _ => 3
  | .octal, n => [3, 6, 11, 22].getD (Nat.log2 n) 22
  | .signed, n => [4, 6, 11, 20].getD (Nat.log2 n) 20
  | .unsigned, n => [3, 5, 10, 20].getD (Nat.log2 n) 20
  | .hexadecimal, n => 2 * n

end Form

/-- The names of the first characters, and of the last one. -/
def names : Array String := #["nul", "soh", "stx", "etx", "eot", "enq", "ack", "bel", "bs", "ht",
  "nl", "vt", "ff", "cr", "so", "si", "dle", "dc1", "dc2", "dc3", "dc4", "nak", "syn", "etb",
  "can", "em", "sub", "esc", "fs", "gs", "rs", "us", "sp"]

/-- A byte by name. -/
def namedByte (n : Nat) : String :=
  let n := n % 128
  if n = 127 then "del" else names.getD n (String.singleton (Char.ofNat n))

/-- The digits of a number in a base, padded with zeros to a width. -/
def digits (base width n : Nat) : String :=
  let ds := String.ofList (Nat.toDigits base n)
  String.ofList (List.replicate (width - ds.length) '0') ++ ds

/-- A byte as a character or an escape. -/
def charByte (n : Nat) : String :=
  let c := Char.ofNat n
  match (("\x00\x07\x08\x0c\n\r\t\x0b".toList).zip ("0abfnrtv".toList)).lookup c with
  | some e => String.ofList ['\\', e]
  | none => if isPrintable c then String.singleton c else digits 8 3 n

/-- A field as it is printed, given its number. -/
def Form.field (f : Form) (n : Nat) : String :=
  match f.style with
  | .named => namedByte n
  | .char => charByte n
  | .unsigned => decimal n
  | .signed =>
    let bound := Nat.pow 256 f.size
    if 2 * n < bound then decimal n else "-" ++ decimal (bound - n)
  | .octal => digits 8 f.width n
  | .hexadecimal => digits 16 f.width n

/-- The number of bytes, the least significant first unless they are in the other order. -/
def numberOf (isBigEndian : Bool) (bytes : List UInt8) : Nat :=
  (if isBigEndian then bytes else bytes.reverse).foldl (fun n b => n * 256 + b.toNat) 0

/-- How a dump is laid out. -/
structure Layout where
  forms : List Form
  blockSize : Nat
  /-- The base of addresses; there may be none. -/
  radix? : Option Nat
  isBigEndian : Bool := false
  showsAll : Bool := false

namespace Layout

/-- The width of a block in all forms. -/
def blockWidth (l : Layout) : Nat :=
  l.forms.foldl (fun w f => max w ((f.width + 1) * (l.blockSize / f.size))) 0

/-- An address. -/
def address (l : Layout) (n : Nat) : String :=
  match l.radix? with
  | none => ""
  | some 16 => digits 16 6 n
  | some radix => digits radix 7 n

/-- The spaces that take the place of an address. -/
def addressGap (l : Layout) : String :=
  String.ofList (List.replicate (match l.radix? with
    | none => 0
    | some 16 => 6
    | some _ => 7) ' ')

/-- The fields of a block in a form, from a position of so many on; what is left of the space that
all fields have too much is shared out among them. -/
def fields (l : Layout) (f : Form) (count pad : Nat) : Nat → Nat → List UInt8 → String
  | 0, _, _ | _, _, [] => ""
  | left + 1, padLeft_, bytes =>
    let nextPad := pad * left / count
    let bs := bytes.take f.size
    let n := numberOf l.isBigEndian (bs ++ List.replicate (f.size - bs.length) 0)
    padLeft (padLeft_ - nextPad + f.width) (f.field n) ++
      l.fields f count pad left nextPad (bytes.drop f.size)

/-- The line of a block in a form. -/
def line (l : Layout) (f : Form) (bytes : List UInt8) : String :=
  let count := l.blockSize / f.size
  let pad := l.blockWidth - f.width * count
  let text := l.fields f count pad count pad bytes
  if f.showsText then
    padRight l.blockWidth text ++ "  >" ++ String.ofList (bytes.map fun b =>
      if isPrintable (octet b) then octet b else '.') ++ "<\n"
  else text ++ "\n"

/-- A block at an address. -/
def block (l : Layout) (address : Nat) (bytes : List UInt8) : String :=
  match l.forms with
  | [] => ""
  | f :: fs => l.address address ++ l.line f bytes ++
      "".intercalate (fs.map fun f => l.addressGap ++ l.line f bytes)

/-- The blocks of bytes from an address on, the last piece of text first. -/
def blocks (l : Layout) : Nat → Nat → Option (List UInt8) → Bool → List UInt8 → List String →
    List String
  | 0, _, _, _, _, out => out
  | steps + 1, address, before?, wasSame, bytes, out =>
    match bytes with
    | [] => (if l.radix?.isSome then l.address address ++ "\n" else "") :: out
    | _ =>
      let bs := bytes.take l.blockSize
      let rest := bytes.drop l.blockSize
      let isSame := !l.showsAll && before? == some bs && bs.length = l.blockSize
      let next := address + bs.length
      if isSame then
        l.blocks steps next before? true rest (if wasSame then out else "*\n" :: out)
      else l.blocks steps next (some bs) false rest (l.block address bs :: out)

end Layout

/-! ### Reading options -/

/-- The sizes that letters stand for. -/
def sizeLetters : List (Char × Nat) := [('C', 1), ('S', 2), ('I', 4), ('L', 8)]

/-- Reads the size of a form. -/
def readSize (whole : String) (cs : List Char) : Except String (Nat × List Char) :=
  let ds := cs.takeWhile Char.isDigit
  match ds, cs with
  | [], c :: rest => .ok (match sizeLetters.lookup c with
    | some n => (n, rest)
    | none => (4, cs))
  | [], [] => .ok (4, [])
  | ds, _ =>
    let n := ds.foldl (fun n c => 10 * n + (c.toNat - 48)) 0
    if [1, 2, 4, 8].contains n then .ok (n, cs.drop ds.length)
    else .error ("invalid type string " ++ cited whole ++ ";\nthis system doesn't provide a " ++
      decimal n ++ "-byte integral type")

/-- Reads the forms of a text. -/
def readForms (whole : String) : Nat → List Char → Except String (List Form)
  | 0, _ | _ + 1, [] => .ok []
  | steps + 1, c :: cs => do
    let (style, size, rest) ← match c with
      | 'a' => pure (Style.named, 1, cs)
      | 'c' => pure (Style.char, 1, cs)
      | 'd' | 'o' | 'u' | 'x' =>
        let (size, rest) ← readSize whole cs
        let style := match c with
          | 'd' => Style.signed
          | 'o' => Style.octal
          | 'u' => Style.unsigned
          | _ => Style.hexadecimal
        pure (style, size, rest)
      | c => .error ("invalid character '" ++ String.singleton c ++ "' in type string " ++
          cited whole)
    let (showsText, rest) := match rest with
      | 'z' :: rest => (true, rest)
      | rest => (false, rest)
    return ⟨style, size, showsText⟩ :: (← readForms whole steps rest)

/-- The forms that options without arguments stand for. -/
def shortForms : List (String × String) := [("a", "a"), ("b", "o1"), ("c", "c"), ("d", "u2"),
  ("i", "dI"), ("l", "dL"), ("o", "o2"), ("s", "d2"), ("x", "x2"), ("h", "x2"), ("B", "o2"),
  ("D", "u4"), ("H", "x4"), ("I", "dL"), ("L", "dL"), ("O", "o4"), ("X", "x4")]

/-- The forms of options. -/
def formsOf (w : Words) : Except String (List Form) := do
  let texts := w.options.filterMap fun o =>
    if o.1 = "t" then some o.2 else shortForms.lookup o.1
  let all ← texts.mapM fun t => readForms t (t.length + 1) t.toList
  return if all.isEmpty then [⟨.octal, 2, false⟩] else all.flatten

/-- A number of bytes: in decimal, octal or hexadecimal, with a multiplier. -/
def readCount? (text : String) : Option Nat :=
  let value (base : Nat) (cs : List Char) : Option Nat :=
    if cs.isEmpty then none
    else cs.foldlM (fun n c => (hexValue? c).bind fun d =>
      if d < base then some (n * base + d) else none) 0
  match text.toList with
  | '0' :: 'x' :: cs | '0' :: 'X' :: cs => value 16 cs
  | cs =>
    let (multiplier, cs) := match cs.getLast? with
      | some 'b' => (512, cs.dropLast)
      | some 'K' | some 'k' => (1024, cs.dropLast)
      | some 'm' | some 'M' => (1048576, cs.dropLast)
      | _ => (1, cs)
    (value (if cs.head? = some '0' then 8 else 10) cs).map (· * multiplier)

end Dump

/-- The options of `od`. -/
def dumpChoices : List Choice := [⟨"A", ["address-radix"], .required⟩,
  ⟨"j", ["skip-bytes"], .required⟩, ⟨"N", ["read-bytes"], .required⟩,
  ⟨"t", ["format"], .required⟩, ⟨"v", ["output-duplicates"], .plain⟩,
  ⟨"w", ["width"], .possible⟩, ⟨"endian", ["endian"], .required⟩] ++ letters "abcdhilosxBDHILOX"

/-- Prints the bytes of files. -/
def od : Program := fun c =>
  c.withWords dumpChoices fun w => do
  let countOf (key name : String) (usual : Option Nat) : Except String (Option Nat) :=
    match w.get? key with
    | none => .ok usual
    | some text => match Dump.readCount? text with
      | some n => .ok (some n)
      | none => .error ("invalid -" ++ name ++ " argument " ++ cited text)
  let read : Except String (Dump.Layout × Nat × Option Nat × List String) := do
    let radix? ← match w.get? "A" with
      | none | some "o" => pure (some 8)
      | some "d" => pure (some 10)
      | some "x" => pure (some 16)
      | some "n" => pure none
      | some text => .error ("invalid output address radix '" ++
          String.singleton (text.toList.headD 'n') ++
          "'; it must be one character from [doxn]")
    let skipped ← countOf "j" "j" (some 0)
    let most? ← countOf "N" "N" none
    let forms ← Dump.formsOf w
    let unit := forms.foldl (fun n f => max n f.size) 1
    let (blockSize, oddities) ← match w.get? "w" with
      | none => pure (unit * (16 / unit), [])
      | some "" => pure (32, [])
      | some text => match Dump.readCount? text with
        | some n =>
          if n ≠ 0 && n % unit = 0 then pure (n, [])
          else pure (unit, ["warning: invalid width " ++ text ++ "; using " ++ decimal unit ++
            " instead"])
        | none => .error ("invalid -w argument " ++ cited text)
    let layout : Dump.Layout :=
      { forms, blockSize, radix?, showsAll := w.has "v", isBigEndian := w.get? "endian" = some "big" }
    return (layout, skipped.getD 0, most?, oddities)
  match read with
  | .error reason => c.fail 1 reason
  | .ok (layout, skipped, most?, oddities) =>
    for oddity in oddities do
      c.complain oddity
    let (texts, status) ← readFiles c w.files
    let bytes := bytesOfOctets ("".intercalate texts)
    if texts.isEmpty then return status
    else if bytes.length < skipped then c.fail 1 "cannot skip past end of combined input"
    else
      let bytes := bytes.drop skipped
      let bytes := match most? with
        | some n => bytes.take n
        | none => bytes
      let out := layout.blocks (bytes.length + 2) skipped none false bytes []
      c.finish (out.reverse.foldl (· ++ ·) "") status

end LuaBundler.Utility
