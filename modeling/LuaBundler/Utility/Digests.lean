import LuaBundler.Digest.Md5
import LuaBundler.Digest.Sha
import LuaBundler.Text.Digits
import LuaBundler.Utility.LineSource
import LuaBundler.Utility.Options

/-!
# Utilities: digests

Printing the digests of files, and checking files against digests that were printed; and two sums of
bytes that are much older.
-/

namespace LuaBundler.Utility

open LuaBundler.Files LuaBundler.System LuaBundler.Text

/-- A way to make digests. -/
structure DigestKind where
  /-- What a digest is tagged with. -/
  tag : String
  digest : Bytes → String
  /-- The number of hexadecimal digits. -/
  length : Nat

namespace DigestKind

/-- The kinds of digests. -/
def md5 : DigestKind := ⟨"MD5", Digest.md5, 32⟩

@[inherit_doc md5]
def sha1 : DigestKind := ⟨"SHA1", Digest.sha1, 40⟩

@[inherit_doc md5]
def sha224 : DigestKind := ⟨"SHA224", Digest.sha224, 56⟩

@[inherit_doc md5]
def sha256 : DigestKind := ⟨"SHA256", Digest.sha256, 64⟩

@[inherit_doc md5]
def sha384 : DigestKind := ⟨"SHA384", Digest.sha384, 96⟩

@[inherit_doc md5]
def sha512 : DigestKind := ⟨"SHA512", Digest.sha512, 128⟩

end DigestKind

/-! ### Printing digests -/

/-- A name in which backslashes and line ends are escaped, and whether there were any. -/
def escapedName (name : String) : String × Bool :=
  let text := "".intercalate (name.toList.map fun c => match c with
    | '\\' => "\\\\"
    | '\n' => "\\n"
    | '\r' => "\\r"
    | c => String.singleton c)
  (text, text ≠ name)

/-- The name that an escaped name stands for; nothing if it is no such name. -/
def unescapedName? : List Char → Option (List Char)
  | '\\' :: '\\' :: cs => (unescapedName? cs).map ('\\' :: ·)
  | '\\' :: 'n' :: cs => (unescapedName? cs).map ('\n' :: ·)
  | '\\' :: 'r' :: cs => (unescapedName? cs).map ('\r' :: ·)
  | '\\' :: _ => none
  | c :: cs => (unescapedName? cs).map (c :: ·)
  | [] => some []

/-- The line of a file's digest. -/
def digestLine (k : DigestKind) (w : Words) (name digest : String) : String :=
  let isZero := w.has "z"
  let (text, isEscaped) := if isZero then (name, false) else escapedName name
  let start := if isEscaped then "\\" else ""
  let line :=
    if w.has "tag" then start ++ k.tag ++ " (" ++ text ++ ") = " ++ digest
    else start ++ digest ++ (if w.last? ["b", "t"] = some "b" then " *" else "  ") ++ text
  line.push (if isZero then '\x00' else '\n')

/-- Prints the digests of files. -/
def printDigests (c : Call) (k : DigestKind) (w : Words) :
    List String → Nat → Gathered → Action Nat
  | [], status, g => g.finish c status 1
  | path :: paths, status, g => do
    match ← readFile path with
    | .error e =>
      let g ← g.flush
      c.complainOf path e
      printDigests c k w paths 1 g
    | .ok text =>
      let g ← g.put (digestLine k w path (k.digest (bytesOfOctets text)))
      printDigests c k w paths status g

/-! ### Checking digests -/

/-- A digest that was printed of a file. -/
structure Printed where
  name : String
  digest : String

/-- Whether a text is a digest of a kind. -/
def isDigest (k : DigestKind) (text : String) : Bool :=
  text.length = k.length && text.toList.all fun c => (hexValue? c).isSome

/-- Reads a line that names the kind of the digest. -/
def readTagged? (k : DigestKind) (line : String) : Option Printed := do
  let cs ← (k.tag.toList.isPrefixOf? line.toList)
  let cs := cs.dropWhile (· = ' ')
  match cs with
  | '(' :: cs =>
    let back := cs.reverse
    let digest := String.ofList (back.takeWhile fun c => (hexValue? c).isSome).reverse
    match (back.drop digest.length).dropWhile (· = ' ') with
    | '=' :: back =>
      match back.dropWhile (· = ' ') with
      | ')' :: name =>
        if isDigest k digest then some ⟨String.ofList name.reverse, digest⟩ else none
      | _ => none
    | _ => none
  | _ => none

/-- Reads a line. -/
def readPrinted? (k : DigestKind) (line : String) : Option Printed := do
  let cs := line.toList.dropWhile fun c => c = ' ' || c = '\t'
  let (isEscaped, cs) := match cs with
    | '\\' :: cs => (true, cs)
    | cs => (false, cs)
  let found ← match readTagged? k (String.ofList cs) with
    | some found => some found
    | none =>
      let digest := cs.takeWhile fun c => (hexValue? c).isSome
      match cs.drop digest.length with
      | ' ' :: mark :: name =>
        let name := if mark = ' ' || mark = '*' then name else mark :: name
        if isDigest k (String.ofList digest) && !name.isEmpty then
          some (Printed.mk (String.ofList name) (String.ofList digest))
        else none
      | _ => none
  if isEscaped then
    let name ← unescapedName? found.name.toList
    return { found with name := String.ofList name }
  else return found

/-- The result of checking. -/
structure Checked where
  output : Gathered := {}
  right : Nat := 0
  misformatted : Nat := 0
  wrong : Nat := 0
  unread : Nat := 0

/-- Checks a file against a digest that was printed of it. -/
def checkFile (c : Call) (k : DigestKind) (w : Words) (p : Printed) (r : Checked) :
    Action Checked := do
  let shownName := let (text, isEscaped) := escapedName p.name
    (if isEscaped then "\\" else "") ++ text
  let isSilent := w.has "status"
  let tell (what : String) (g : Gathered) : Action Gathered :=
    if isSilent then pure g else g.put (shownName ++ ": " ++ what ++ "\n")
  match ← readFile p.name with
  | .error .notFound =>
    if w.has "ignore-missing" then return r else missing tell .notFound
  | .error e => missing tell e
  | .ok text =>
    if (k.digest (bytesOfOctets text)).toList = p.digest.toList.map Char.toLower then
      let output ← if w.has "quiet" then pure r.output else tell "OK" r.output
      return { r with output, right := r.right + 1 }
    else
      return { r with output := ← tell "FAILED" r.output, wrong := r.wrong + 1 }
where
  /-- Tells of a file that cannot be read. -/
  missing (tell : String → Gathered → Action Gathered) (e : FileError) : Action Checked := do
    let output ← r.output.flush
    c.complainOf p.name e
    return { r with output := ← tell "FAILED open or read" output, unread := r.unread + 1 }

/-- Checks all files that lines name. -/
def checkLines (c : Call) (k : DigestKind) (w : Words) (source : String) :
    Nat → List String → Checked → Action Checked
  | _, [], r => return r
  | number, line :: lines, r => do
    if line.startsWith "#" then checkLines c k w source (number + 1) lines r
    else
      let line := if line.endsWith "\r" then String.ofList line.toList.dropLast else line
      match readPrinted? k line with
      | some p => checkLines c k w source (number + 1) lines (← checkFile c k w p r)
      | none =>
        let output ← if w.has "w" then do
            let output ← r.output.flush
            c.complain (source ++ ": " ++ decimal number ++ ": improperly formatted " ++ k.tag ++
              " checksum line")
            pure output
          else pure r.output
        checkLines c k w source (number + 1) lines
          { r with output, misformatted := r.misformatted + 1 }

/-- A number of things with the verb that goes with it. -/
def counted (n : Nat) (one many : String) : String :=
  decimal n ++ " " ++ (if n = 1 then one else many)

/-- Checks the files of a list, and says how many were not right. -/
def checkList (c : Call) (k : DigestKind) (w : Words) (path : String) : Action Bool := do
  let source := if path = "-" then quoted "standard input" else shown path
  match ← readFile path with
  | .error e =>
    c.complain (source ++ ": " ++ e.reason)
    return false
  | .ok text =>
    let r ← checkLines c k w source 1 (linesOf '\n' text) {}
    let _ ← r.output.flush
    if r.right + r.wrong + r.unread = 0 then
      if r.misformatted ≠ 0 || !w.has "ignore-missing" then
        c.complain (source ++ ": no properly formatted checksum lines found")
      else c.complain (source ++ ": no file was verified")
      return false
    else
      if !w.has "status" then
        if r.misformatted ≠ 0 then
          c.complain ("WARNING: " ++
            counted r.misformatted "line is improperly formatted" "lines are improperly formatted")
        if r.unread ≠ 0 then
          c.complain ("WARNING: " ++
            counted r.unread "listed file could not be read" "listed files could not be read")
        if r.wrong ≠ 0 then
          c.complain ("WARNING: " ++ counted r.wrong "computed checksum did NOT match"
            "computed checksums did NOT match")
      if w.has "ignore-missing" && r.right = 0 then
        c.complain (source ++ ": no file was verified")
      return r.wrong = 0 && r.unread = 0 && (r.misformatted = 0 || !w.has "strict") &&
        (r.right ≠ 0 || !w.has "ignore-missing")

/-- Checks the files of lists. -/
def checkLists (c : Call) (k : DigestKind) (w : Words) : List String → Bool → Action Nat
  | [], isRight => return if isRight then 0 else 1
  | path :: paths, isRight => do
    let ok ← checkList c k w path
    checkLists c k w paths (isRight && ok)

/-- What options are meaningful only together with checking. -/
def checkingOptions : List (String × String) := [("ignore-missing", "ignore-missing"),
  ("status", "status"), ("w", "warn"), ("quiet", "quiet"), ("strict", "strict")]

/-- Prints the digests of files, or checks them. -/
def digestProgram (k : DigestKind) : Program := fun c =>
  c.withWords [⟨"b", ["binary"], .plain⟩, ⟨"c", ["check"], .plain⟩, ⟨"t", ["text"], .plain⟩,
    ⟨"w", ["warn"], .plain⟩, ⟨"z", ["zero"], .plain⟩, ⟨"tag", ["tag"], .plain⟩,
    ⟨"quiet", ["quiet"], .plain⟩, ⟨"status", ["status"], .plain⟩, ⟨"strict", ["strict"], .plain⟩,
    ⟨"ignore-missing", ["ignore-missing"], .plain⟩] fun w => do
  let files := if w.operands.isEmpty then ["-"] else w.operands
  if w.has "c" then
    if w.has "tag" then c.misused 1 "the --tag option is meaningless when verifying checksums"
    else checkLists c k w files true
  else match checkingOptions.find? fun o => w.has o.1 with
    | some (_, name) =>
      c.misused 1 ("the --" ++ name ++ " option is meaningful only when verifying checksums")
    | none => printDigests c k w files 0 {}

/-- Prints or checks digests. -/
def md5sum : Program := digestProgram .md5

@[inherit_doc md5sum]
def sha1sum : Program := digestProgram .sha1

@[inherit_doc md5sum]
def sha224sum : Program := digestProgram .sha224

@[inherit_doc md5sum]
def sha256sum : Program := digestProgram .sha256

@[inherit_doc md5sum]
def sha384sum : Program := digestProgram .sha384

@[inherit_doc md5sum]
def sha512sum : Program := digestProgram .sha512

/-! ### Sums -/

/-- The polynomial that remainders are taken by, without its highest bit. -/
def remainderPolynomial : UInt32 := 0x04c11db7

/-- The remainder of a byte more, bit by bit. -/
def remainderStep (r : UInt32) (b : UInt8) : UInt32 :=
  (List.range 8).foldl (fun r _ =>
    if r &&& (0x80000000 : UInt32) = 0 then r <<< 1 else (r <<< 1) ^^^ remainderPolynomial)
    (r ^^^ (b.toUInt32 <<< 24))

/-- The bytes of a number, the least significant first, without zeros at the end. -/
def lengthBytes : Nat → Nat → List UInt8
  | 0, _ | _, 0 => []
  | steps + 1, n => UInt8.ofNat (n % 256) :: lengthBytes steps (n / 256)

/-- The remainder of bytes and their number. -/
def remainderOf (bytes : List UInt8) : UInt32 :=
  ~~~ ((bytes ++ lengthBytes 64 bytes.length).foldl remainderStep 0)

/-- The sum of bytes that is rotated before each byte. -/
def rotatingSum (bytes : List UInt8) : Nat :=
  bytes.foldl (fun s b => (s / 2 + s % 2 * 0x8000 + b.toNat) % 0x10000) 0

/-- The sum of bytes, folded to sixteen bits. -/
def foldedSum (bytes : List UInt8) : Nat :=
  let s := bytes.foldl (fun s b => s + b.toNat) 0
  let r := s % 0x10000 + s % 0x100000000 / 0x10000
  r % 0x10000 + r / 0x10000

/-- Prints a line for each file. -/
def sumFiles (c : Call) (line : Bytes → String → String) :
    List String → Nat → Gathered → Action Nat
  | [], status, g => g.finish c status 1
  | path :: paths, status, g => do
    match ← readFile path with
    | .error e =>
      let g ← g.flush
      c.complainOf path e
      sumFiles c line paths 1 g
    | .ok text => sumFiles c line paths status (← g.put (line (bytesOfOctets text) path))

/-- A line of numbers, with the name of the file if there is one. -/
def sumLine (numbers : String) (files : List String) (path : String) : String :=
  numbers ++ (if files.isEmpty then "" else " " ++ path) ++ "\n"

/-- The line of a remainder. -/
def remainderLine (files : List String) (bytes : Bytes) (path : String) : String :=
  sumLine (decimal (remainderOf bytes).toNat ++ " " ++ decimal bytes.length) files path

/-- The line of a rotating sum, and the number of blocks of 1024 bytes. -/
def rotatingLine (files : List String) (bytes : Bytes) (path : String) : String :=
  let sum := decimal (rotatingSum bytes)
  sumLine (String.ofList (List.replicate (5 - sum.length) '0') ++ sum ++ " " ++
    padLeft 5 (decimal ((bytes.length + 1023) / 1024))) files path

/-- The line of a folded sum, and the number of blocks of 512 bytes. -/
def foldedLine (files : List String) (bytes : Bytes) (path : String) : String :=
  sumLine (decimal (foldedSum bytes) ++ " " ++ decimal ((bytes.length + 511) / 512)) files path

/-- The digests that `cksum` knows by name. -/
def namedDigests : List (String × DigestKind) := [("md5", .md5), ("sha1", .sha1),
  ("sha224", .sha224), ("sha256", .sha256), ("sha384", .sha384), ("sha512", .sha512)]

/-- The ways to sum that `cksum` knows by name. -/
def namedSums : List (String × (List String → Bytes → String → String)) :=
  [("bsd", rotatingLine), ("sysv", foldedLine), ("crc", remainderLine)]

/-- Prints remainders or digests of files. -/
def cksum : Program := fun c =>
  c.withWords [⟨"a", ["algorithm"], .required⟩, ⟨"untagged", ["untagged"], .plain⟩,
    ⟨"tag", ["tag"], .plain⟩] fun w => do
  let files := if w.operands.isEmpty then ["-"] else w.operands
  let name := (w.get? "a").getD "crc"
  match namedSums.lookup name, namedDigests.lookup name with
  | some line, _ => sumFiles c (line w.operands) files 0 {}
  | none, some k =>
    let tags := if w.has "untagged" then [] else [("tag", "")]
    printDigests c k { w with options := tags } files 0 {}
  | none, none =>
    let known := ["bsd", "sysv", "crc", "md5", "sha1", "sha224", "sha256", "sha384", "sha512",
      "blake2b", "sm3"]
    c.misused 1 ("invalid argument " ++ cited name ++ " for '--algorithm'\nValid arguments are:" ++
      "".intercalate (known.map fun k => "\n  - '" ++ k ++ "'"))

/-- Prints sums of the bytes of files. -/
def sum : Program := fun c =>
  c.withWords [⟨"r", [], .plain⟩, ⟨"s", ["sysv"], .plain⟩] fun w =>
    let files := if w.operands.isEmpty then ["-"] else w.operands
    let line := if w.last? ["r", "s"] = some "s" then foldedLine else rotatingLine
    sumFiles c (line w.operands) files 0 {}

end LuaBundler.Utility
