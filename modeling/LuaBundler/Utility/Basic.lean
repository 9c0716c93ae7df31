import LuaBundler.System.Octets
import LuaBundler.System.Request
import LuaBundler.Text.Digits

/-!
# Utilities

A utility is a program that a system comes with: given how it is called, it is an action that ends
with a status. This module holds what utilities have in common: reading and writing, how they quote
names, and how they complain.

Texts are octet texts.
-/

namespace LuaBundler.Utility

open LuaBundler.Files LuaBundler.System LuaBundler.Text

/-- How a utility is called: by a name, with arguments and variables. -/
structure Call where
  name : String
  args : List String
  env : List String

/-- A utility. -/
abbrev Program := Call → Action Nat

/-- Asks the system. -/
def ask (r : Request) : Action r.Answer :=
  Action.ask r

/-- How often something that has to come to an end by itself is done at most. -/
def maxSteps : Nat := 1000000000000000

/-! ### Quoting -/

/-- Whether a character can stand in a name that is not quoted. -/
def isSafe (c : Char) : Bool :=
  c.isAlphanum || "%+,-./:@_]^".toList.contains c

/-- Whether a character is printed as it is. -/
def isPrintable (c : Char) : Bool :=
  32 ≤ c.toNat && c.toNat < 127

/-- A character between single quotes that cannot be printed. -/
def hiddenText (c : Char) : List Char :=
  match "\x07\x08\t\n\x0b\x0c\r".toList.findIdx? (· == c) with
  | some i => ['\\', ("abtnvfr".toList).getD i 'a']
  | none =>
    let n := c.toNat
    '\\' :: [n / 64, n / 8 % 8, n % 8].map fun d => Char.ofNat (48 + d)

/-- A name between single quotes; what cannot stand there is put between others. -/
def quotedChars : Bool → List Char → List Char
  | _, [] => []
  | isHidden, c :: cs =>
    if isPrintable c then
      (if isHidden then "''".toList else []) ++
        (if c = '\'' then "'\\''".toList else [c]) ++ quotedChars false cs
    else
      (if isHidden then [] else "'$'".toList) ++ hiddenText c ++
        (match cs with
          | [] => []
          | d :: _ => if isPrintable d then "'".toList ++ "'".toList else []) ++
        quotedChars (match cs with
          | [] => true
          | d :: _ => !isPrintable d) cs

/-- A name between quotes. -/
def quoted (name : String) : String :=
  let cs := name.toList
  if cs.contains '\'' ∧ cs.all (fun c => isPrintable c && !("\"$\\!".toList.contains c) && c.toNat ≠ 96)
  then "\"" ++ name ++ "\""
  else String.ofList ('\'' :: quotedChars false cs ++ ['\''])

/-- A name between quotes if it needs them. -/
def shown (name : String) : String :=
  match name.toList with
  | [] => "''"
  | '~' :: _ | '#' :: _ => quoted name
  | cs => if cs.all isSafe then name else quoted name

/-- A character of a text that is cited. -/
def citedChar (c : Char) : List Char :=
  if c = '\'' || c = '\\' then ['\\', c]
  else if isPrintable c then [c] else hiddenText c

/-- A text as it is cited: between single quotes, with a backslash before what cannot stand there. -/
def cited (text : String) : String :=
  String.ofList ('\'' :: text.toList.flatMap citedChar ++ ['\''])

/-! ### Writing -/

/-- Writes all of a piece; gives the failure if that does not work. -/
def writeWithin (number : Nat) : Nat → ByteArray → Action (Option FileError)
  | 0, _ => return none
  | steps + 1, bytes => do
    if bytes.size = 0 then return none
    match ← ask (.write number bytes) with
    | .ok n =>
      if bytes.size ≤ n then return none
      else writeWithin number steps (bytes.extract n bytes.size)
    | .error .interrupted => writeWithin number steps bytes
    | .error e => return some e

/-- Writes a piece. -/
def writeBytes (number : Nat) (bytes : ByteArray) : Action (Option FileError) :=
  writeWithin number maxSteps bytes

/-- Writes a text. -/
def write (number : Nat) (text : String) : Action (Option FileError) :=
  writeBytes number (arrayOfOctets text)

namespace Call

/-- Writes to the error stream. -/
def note (_ : Call) (text : String) : Action Unit :=
  discard (write 2 text)

/-- Complains. -/
def complain (c : Call) (reason : String) : Action Unit :=
  c.note (c.name ++ ": " ++ reason ++ "\n")

/-- Complains of a file. -/
def complainOf (c : Call) (path : String) (e : FileError) : Action Unit :=
  c.complain (shown path ++ ": " ++ e.reason)

/-- Complains and ends with a status. -/
def fail (c : Call) (status : Nat) (reason : String) : Action Nat := do
  c.complain reason
  return status

/-- Complains of how it is called. -/
def misused (c : Call) (status : Nat) (reason : String) : Action Nat := do
  c.complain reason
  c.note ("Try '" ++ c.name ++ " --help' for more information.\n")
  return status

/-- Prints a text, and ends with a status, or another one if the text cannot be printed. -/
def finish (c : Call) (text : String) (status : Nat) (failed : Nat := 1) : Action Nat := do
  match ← write 1 text with
  | none => return status
  | some e => c.fail failed ("write error: " ++ e.reason)

/-- The value of a variable. -/
def get? (c : Call) (name : String) : Option String :=
  (c.env.find? fun e => e.startsWith (name ++ "=")).map fun e =>
    String.ofList (e.toList.drop (name.length + 1))

end Call

/-! ### Reading -/

/-- The number of bytes that are read at once. -/
def blockSize : Nat := 65536

/-- Reads a piece; an empty one is the end. -/
def readPieceWithin (number : Nat) : Nat → Action (Except FileError ByteArray)
  | 0 => return .ok ByteArray.empty
  | steps + 1 => do
    match ← ask (.read number blockSize) with
    | .error .interrupted => readPieceWithin number steps
    | got => return got

/-- Reads a piece; an empty one is the end. -/
def readPiece (number : Nat) : Action (Except FileError ByteArray) :=
  readPieceWithin number 1000000

/-- Reads all that is left. -/
def readRestWithin (number : Nat) : Nat → List ByteArray → Action (Except FileError String)
  | 0, pieces => return .ok (joined pieces)
  | steps + 1, pieces => do
    match ← readPiece number with
    | .error e => return .error e
    | .ok bytes =>
      if bytes.size = 0 then return .ok (joined pieces)
      else readRestWithin number steps (bytes :: pieces)
where
  /-- The text of pieces, the last one first. -/
  joined (pieces : List ByteArray) : String :=
    pieces.reverse.foldl (fun s p => s ++ octetsOfArray p) ""

/-- Reads all that is left. -/
def readRest (number : Nat) : Action (Except FileError String) :=
  readRestWithin number maxSteps []

/-- Does something with the number of an opened file, and closes it. -/
def withFile {α : Type} (path : String) (f : Nat → Action (Except FileError α)) :
    Action (Except FileError α) := do
  match ← ask (.open path { read := true }) with
  | .error e => return .error e
  | .ok number =>
    let result ← f number
    discard (ask (.close number))
    return result

/-- Reads a file, or the input for a minus sign. -/
def readFile (path : String) : Action (Except FileError String) :=
  if path = "-" then readRest 0 else withFile path readRest

/-- Writes a file. -/
def writeFile (path text : String) : Action (Option FileError) := do
  match ← ask (.open path { write := true, create := true, truncate := true }) with
  | .error e => return some e
  | .ok number =>
    let failure ← write number text
    discard (ask (.close number))
    return failure

/-- What is known of a file, if it is there. -/
def facts? (path : String) (follow : Bool) : Action (Option Facts) := do
  match ← ask (.facts path follow) with
  | .ok f => return some f
  | .error _ => return none

/-- Whether a path leads to a directory. -/
def isDir (path : String) (follow : Bool := true) : Action Bool := do
  return match ← facts? path follow with
    | some f => f.kind = .dir
    | none => false

/-! ### Lines -/

/-- The lines of a text without their ends; what follows the last end is a line if it is not
empty. -/
def linesOf (ending : Char) (text : String) : List String :=
  let (lines, last) := text.foldl (fun (lines, last) c =>
    if c = ending then (last :: lines, "") else (lines, last.push c)) (([] : List String), "")
  ((if last = "" then lines else last :: lines)).reverse

/-- Whether a text ends as lines do. -/
def endsLine (ending : Char) (text : String) : Bool :=
  text = "" || text.back = ending

/-- Lines with their ends. -/
def joinLines (ending : Char) (lines : List String) : String :=
  lines.foldl (fun s l => (s ++ l).push ending) ""

/-! ### Paths -/

/-- A path without slashes at its end. -/
def dropSlashes (path : String) : String :=
  let cs := (path.toList.reverse.dropWhile (· = '/')).reverse
  if cs = [] ∧ path ≠ "" then "/" else String.ofList cs

/-- The last name of a path. -/
def lastName (path : String) : String :=
  let cs := (dropSlashes path).toList
  if cs = ['/'] then "/" else String.ofList ((cs.reverse.takeWhile (· ≠ '/')).reverse)

/-- What is before the last name of a path. -/
def parentOf (path : String) : String :=
  let cs := (dropSlashes path).toList
  let before := (cs.reverse.dropWhile (· ≠ '/')).reverse
  if before = [] then (if cs = ['/'] then "/" else ".")
  else dropSlashes (String.ofList before)

/-- A name in a directory. -/
def joinPath (dir name : String) : String :=
  if dir.endsWith "/" then dir ++ name else dir ++ "/" ++ name

/-! ### Numbers -/

/-- The number that digits spell. -/
def natural? (text : String) : Option Nat :=
  if text ≠ "" ∧ text.toList.all Char.isDigit then
    some (text.toList.foldl (fun n c => n * 10 + (c.toNat - 48)) 0)
  else none

/-- The number that digits after a sign spell. -/
def integer? (text : String) : Option Int :=
  match text.toList with
  | '-' :: cs => (natural? (String.ofList cs)).map fun n => -(n : Int)
  | '+' :: cs => (natural? (String.ofList cs)).map fun n => (n : Int)
  | _ => (natural? text).map fun n => (n : Int)

/-- A number as it is written. -/
def integerText (n : Int) : String :=
  if n < 0 then "-" ++ decimal n.natAbs else decimal n.natAbs

/-- A text with spaces before it up to a width. -/
def padLeft (width : Nat) (s : String) : String :=
  String.ofList (List.replicate (width - s.length) ' ') ++ s

/-- A text with spaces after it up to a width. -/
def padRight (width : Nat) (s : String) : String :=
  s ++ String.ofList (List.replicate (width - s.length) ' ')

end LuaBundler.Utility
