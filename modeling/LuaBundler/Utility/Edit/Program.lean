import LuaBundler.Utility.Edit.Editor

/-!
# Utilities: editing streams

The program that reads a script from its arguments or from files, and edits files or its input.
-/

namespace LuaBundler.Utility

open LuaBundler.Files LuaBundler.System LuaBundler.Text

namespace Edit

/-- How to call `sed`. -/
def usage : String := joinLines '\n' [
  "Usage: sed [OPTION]... \x7bscript-only-if-no-other-script\x7d [input-file]...",
  "",
  "  -n, --quiet, --silent",
  "                 suppress automatic printing of pattern space",
  "      --debug",
  "                 annotate program execution",
  "  -e script, --expression=script",
  "                 add the script to the commands to be executed",
  "  -f script-file, --file=script-file",
  "                 add the contents of script-file to the commands to be executed",
  "  --follow-symlinks",
  "                 follow symlinks when processing in place",
  "  -i[SUFFIX], --in-place[=SUFFIX]",
  "                 edit files in place (makes backup if SUFFIX supplied)",
  "  -l N, --line-length=N",
  "                 specify the desired line-wrap length for the `l' command",
  "  --posix",
  "                 disable all GNU extensions.",
  "  -E, -r, --regexp-extended",
  "                 use extended regular expressions in the script",
  "                 (for portability use POSIX -E).",
  "  -s, --separate",
  "                 consider files as separate rather than as a single,",
  "                 continuous long stream.",
  "      --sandbox",
  "                 operate in sandbox mode (disable e/r/w commands).",
  "  -u, --unbuffered",
  "                 load minimal amounts of data from the input files and flush",
  "                 the output buffers more often",
  "  -z, --null-data",
  "                 separate lines by NUL characters",
  "      --help     display this help and exit",
  "      --version  output version information and exit",
  "",
  "If no -e, --expression, -f, or --file option is given, then the first",
  "non-option argument is taken as the sed script to interpret.  All",
  "remaining arguments are names of input files; if no input files are",
  "specified, then the standard input is read.",
  "",
  "GNU sed home page: <https://www.gnu.org/software/sed/>.",
  "General help using GNU software: <https://www.gnu.org/gethelp/>."]

/-- The options of `sed`. -/
def choices : List Choice := [
  ⟨"n", ["quiet", "silent"], .plain⟩, ⟨"debug", ["debug"], .plain⟩,
  ⟨"e", ["expression"], .required⟩, ⟨"f", ["file"], .required⟩,
  ⟨"follow-symlinks", ["follow-symlinks"], .plain⟩, ⟨"i", ["in-place"], .possible⟩,
  ⟨"l", ["line-length"], .required⟩, ⟨"posix", ["posix"], .plain⟩,
  ⟨"E", ["regexp-extended"], .plain⟩, ⟨"r", [], .plain⟩, ⟨"s", ["separate"], .plain⟩,
  ⟨"sandbox", ["sandbox"], .plain⟩, ⟨"u", ["unbuffered"], .plain⟩,
  ⟨"z", ["null-data", "zero-terminated"], .plain⟩, ⟨"help", ["help"], .plain⟩]

/-- A piece of a script: what it is named by if something is wrong with it, and its text. -/
structure Piece where
  /-- The number of an expression, or the name of a file. -/
  source : Nat ⊕ String
  text : String

/-- The pieces of a script that options give, or the file that cannot be read. -/
def piecesOf (number : Nat) : List (String × String) →
    Action (Except (String × FileError) (List Piece))
  | [] => return .ok []
  | (key, value) :: rest => do
    if key = "e" then
      match ← piecesOf (number + 1) rest with
      | .ok pieces => return .ok (⟨.inl number, value⟩ :: pieces)
      | e => return e
    else if key = "f" then
      match ← readFile value with
      | .error e => return .error (value, e)
      | .ok text =>
        let text := if text.endsWith "\n" then String.ofList text.toList.dropLast else text
        match ← piecesOf number rest with
        | .ok pieces => return .ok (⟨.inr value, text⟩ :: pieces)
        | e => return e
    else piecesOf number rest

/-- Where an error is, if so much of several pieces has been read. -/
def placeOf (f : Flaw) : List Piece → Nat → String
  | [], _ => ""
  | p :: ps, used =>
    if used ≤ p.text.length ∨ ps.isEmpty then
      match p.source with
      | .inl n => "-e expression #" ++ decimal n ++ ", char " ++
          (if f.isOfPiece then "0" else decimal used)
      | .inr name =>
        let lines := (p.text.toList.take (used - 1)).count '\n' + 1
        "file " ++ name ++ " line " ++ decimal lines
    else placeOf f ps (used - p.text.length - 1)

/-- What is said about an error. -/
def Flaw.message (f : Flaw) (pieces : List Piece) : String :=
  if f.isGeneral then f.reason else placeOf f pieces f.used ++ ": " ++ f.reason

/-- The text of pieces. -/
def textOf (pieces : List Piece) : String :=
  "\n".intercalate (pieces.map (·.text))

/-- How an editor works by its options and its script. -/
def modeOf (w : Words) (text : String) : Mode := {
  silent := w.has "n" || text.startsWith "#n"
  separate := w.has "s" || w.has "i"
  inPlace? := w.get? "i"
  ending := if w.has "z" then '\x00' else '\n'
  width := ((w.get? "l").bind natural?).getD 70
  strict := w.has "posix" }

/-- Runs an editor on files. -/
def run (c : Call) (w : Words) (pieces : List Piece) (files : List String) : Action Nat := do
  let text := textOf pieces
  match Script.read { isExtended := w.has "E" || w.has "r" } text with
  | .error f => c.fail (if f.isGeneral then 4 else 1) (f.message pieces)
  | .ok (script, targets) =>
    let mode := modeOf w text
    if mode.inPlace?.isSome && files.isEmpty then c.fail 4 "no input files"
    else
      let editor : Editor :=
        { mode, script, call := c, files := if files.isEmpty then ["-"] else files }
      let (status, _) ← (Editing.runAll targets).run editor
      return status

end Edit

/-- Edits files by a script. -/
def sed : Program := fun c =>
  match Options.read Edit.choices false c.args with
  | .error reason => do
    c.complain reason
    c.note Edit.usage
    return 1
  | .ok w => do
    if w.has "help" then return ← c.finish Edit.usage 0
    if w.has "e" || w.has "f" then
      match ← Edit.piecesOf 1 w.options with
      | .error (path, e) => c.fail 4 ("couldn't open file " ++ path ++ ": " ++ e.reason)
      | .ok pieces => Edit.run c w pieces w.operands
    else match w.operands with
    | [] =>
      c.note Edit.usage
      return 1
    | text :: files => Edit.run c w [⟨.inl 1, text⟩] files

end LuaBundler.Utility
