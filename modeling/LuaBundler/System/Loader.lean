import LuaBundler.Files.Error
import LuaBundler.System.Octets
import LuaBundler.Text.Split

/-!
# Loading programs

Starting a program means finding its file and telling what kind of program it is. A file that starts
with the mark of a utility is that utility. A script names an interpreter in its first line, and is
started by starting the interpreter with the path of the script put before its arguments; the
interpreter may be a script itself, up to a depth. A file of neither kind has no executable format.

Where the contents of a program come from is a parameter. Paths and arguments are octet texts.
-/

namespace LuaBundler.System

open Files Text

/-! ### Utilities -/

/-- What the file of a utility starts with: the mark of all programs, its first four bytes, and what
tells utilities from other programs. -/
def utilityMark : Bytes := [0x7f, 0x45, 0x4c, 0x46, 2, 1, 1, 0, 0, 0, 0, 0, 0, 0, 0, 0]

/-- The contents of the file of a utility. -/
def utilityContents (name : String) : Bytes :=
  utilityMark ++ encodeString name

/-- The utility that a file is, if it is one. -/
def utilityOf? (bytes : Bytes) : Option String :=
  if utilityMark.isPrefixOf bytes then some (lossyString (bytes.drop utilityMark.length)) else none

theorem utilityOf?_utilityContents (name : String) :
    utilityOf? (utilityContents name) = some (lossyString (encodeString name)) := by
  simp [utilityOf?, utilityContents]

/-! ### The first line of a script -/

/-- The number of bytes of a header, its two marks left out, that may hold a line end. -/
def headerSize : Nat := 254

/-- A space or a tab. -/
def isGap (b : UInt8) : Bool :=
  b = 0x20 || b = 0x09

/-- What ends the path of an interpreter. -/
def endsName (b : UInt8) : Bool :=
  isGap b || b = 0

/-- The bytes without spaces and tabs at their end. -/
def trimGaps (bs : Bytes) : Bytes :=
  (bs.reverse.dropWhile isGap).reverse

/-- An interpreter, and the one argument that a script may give it. -/
structure Interpreter where
  path : String
  argument : Option String
  deriving Repr, DecidableEq

/-- The interpreter that a text names: a path, and after a gap an argument. -/
def Interpreter.ofText (text : Bytes) : Interpreter :=
  let text := text.dropWhile isGap
  let path := text.takeWhile fun b => !endsName b
  match text.drop path.length with
  | b :: rest =>
    ⟨octetsOfBytes path, if isGap b
      then some (octetsOfBytes ((rest.dropWhile isGap).takeWhile (· ≠ 0)))
      else none⟩
  | [] => ⟨octetsOfBytes path, none⟩

/-- The interpreter of a header. A header that has a line end names it on its first line; without
one, it has to be long enough to show that the path is complete. -/
def Interpreter.ofHeader? (header : Bytes) : Option Interpreter :=
  let line := header.takeWhile fun b => b ≠ 0x0a && b ≠ 0
  if header[line.length]? = some 0x0a then
    let found := Interpreter.ofText (trimGaps line)
    if found.path = "" then none else some found
  else if header.length < headerSize - 1 then some (.ofText header)
  else
    let text := (header.take (headerSize - 1)).dropWhile isGap
    if text.any endsName then some (.ofText (trimGaps text)) else none

/-- The interpreter of a script. -/
def Interpreter.of? (bytes : Bytes) : Option Interpreter :=
  match bytes with
  | 0x23 :: 0x21 :: rest => Interpreter.ofHeader? (rest.take headerSize)
  | _ => none

/-! ### Images -/

/-- A utility with all its arguments, the name it is called by first. -/
structure Image where
  utility : String
  args : List String
  deriving Repr, DecidableEq

/-- What runs in the end if a path is started with arguments. -/
def imageWithin (contents : String → Except FileError Bytes) :
    Nat → String → List String → Except FileError Image
  | depth, path, args => do
    let bytes ← contents path
    match utilityOf? bytes, Interpreter.of? bytes, depth with
    | some utility, _, _ => return ⟨utility, args⟩
    | none, none, _ => .error .execFormat
    | none, some _, 0 => .error .tooManyLinks
    | none, some found, depth + 1 =>
      imageWithin contents depth found.path
        (found.path :: found.argument.toList ++ path :: args.drop 1)

/-- The number of scripts that may interpret each other. -/
def maxInterpreters : Nat := 5

/-- The number of bytes that one argument may have. -/
def maxArgument : Nat := 131071

/-- The number of bytes that all arguments may have. -/
def maxArguments : Nat := 2097152

/-- Whether arguments and variables are too many or too long. -/
def isTooLong (texts : List String) : Bool :=
  texts.any (fun t => maxArgument < t.length) ||
    maxArguments < texts.foldl (fun n t => n + t.length + 9) 0

/-- What runs in the end if a path is started with arguments, the first of which is the name that
the program is called by. -/
def image (contents : String → Except FileError Bytes) (path : String) (args env : List String) :
    Except FileError Image := do
  let _ ← contents path
  if isTooLong (args ++ env) then .error .argumentsTooLong
  else imageWithin contents maxInterpreters path args

/-! ### Searching -/

/-- The shell that takes a file of no executable format for a script. -/
def fallbackShell : String := "/bin/sh"

/-- What is tried if a file has no executable format. -/
def fallbackArgs (path : String) (args : List String) : List String :=
  fallbackShell :: path :: args.drop 1

/-- Whether a search goes on after a failure. -/
def isPassedOver : FileError → Bool
  | .notFound | .notDirectory | .permissionDenied => true
  | _ => false

/-- The failure of a search after another failure: a denied permission counts most, and else the
last failure. -/
def worse (before after : FileError) : FileError :=
  if before = .permissionDenied then before else after

/-- The directories that programs are looked up in when nothing names any. -/
def usualDirs : List String := ["/bin", "/usr/bin"]

/-- The paths that a program may be at: itself if it has a slash, and else what its name is in the
directories of a text. -/
def programPaths (dirs : Option String) (program : String) : List String :=
  if '/' ∈ program.toList then [program]
  else
    let dirs := match dirs with
      | some text => (splitOn ':' text.toList).map String.ofList
      | none => usualDirs
    dirs.map fun dir => if dir = "" then program else dir ++ "/" ++ program

end LuaBundler.System
