import LuaBundler.Utility.Regex.Reader
import LuaBundler.Utility.Streams

/-!
# Utilities: reversal

Copying files with their parts in reverse order, and lines with their characters in reverse order.
Parts end, or start, with separators, which are looked for from the end of a text on.
-/

namespace LuaBundler.Utility

open LuaBundler.Files LuaBundler.System LuaBundler.Text

/-! ### Parts -/

/-- How the parts of a text are set apart. -/
inductive Separator where
  | word (bytes : ByteArray)
  | pattern (p : Regex.Compiled)

namespace Separator

/-- Whether a word stands at a position. -/
def standsAt (word text : ByteArray) (start : Nat) : Bool :=
  (List.range word.size).all fun i => text[start + i]? == word[i]?

/-- The separator that starts before a position and that no other one starts after: where it starts,
and where it ends. -/
def last? (s : Separator) (text : ByteArray) : Nat → Option (Nat × Nat)
  | 0 => none
  | start + 1 =>
    let found? := match s with
      | .word w => if standsAt w text start then some (start, start + w.size) else none
      | .pattern p => (p.searchWithin true text 1 start ∅).bind fun m => m.getD 0 none
    found?.or (s.last? text start)

/-- The parts of a text, the last one first. The text ends at `stop`; before `limit` more separators
are looked for. -/
def parts (s : Separator) (isBefore : Bool) (text : ByteArray) : Nat → Nat → Nat → List ByteArray
  | 0, _, stop => [text.extract 0 stop]
  | steps + 1, limit, stop =>
    match s.last? (text.extract 0 limit) limit with
    | none => [text.extract 0 stop]
    | some (a, b) =>
      let at_ := if isBefore then a else b
      text.extract at_ stop :: s.parts isBefore text steps a at_

/-- A text with its parts in reverse order. -/
def reversed (s : Separator) (isBefore : Bool) (text : String) : String :=
  let bytes := arrayOfOctets text
  octetsOfArray ((s.parts isBefore bytes (bytes.size + 1) bytes.size bytes.size).foldl (· ++ ·)
    ByteArray.empty)

end Separator

/-- A text with its lines in reverse order. -/
def reverseLines (text : String) : String :=
  let parts := linesOf '\n' text
  let last := if endsLine '\n' text then "\n" else ""
  match parts.reverse with
  | [] => ""
  | l :: ls => l ++ last ++ joinLines '\n' ls

/-- A pattern in which a plus sign and a question mark are operators without a backslash, as one in
which they are such with it. -/
def swapOperators : List Char → List Char
  | '\\' :: c :: cs =>
    if "+?\x7b\x7d".toList.contains c then c :: swapOperators cs else '\\' :: c :: swapOperators cs
  | c :: cs => if c = '+' || c = '?' then '\\' :: c :: swapOperators cs else c :: swapOperators cs
  | [] => []

/-- Copies files with their lines, or other parts, in reverse order. -/
def tac : Program := fun c =>
  c.withWords [⟨"b", ["before"], .plain⟩, ⟨"r", ["regex"], .plain⟩,
    ⟨"s", ["separator"], .required⟩] fun w =>
  let given := (w.get? "s").getD "\n"
  let tell (path : String) (e : FileError) : Action Unit :=
    if e = .isDirectory then c.complain (shown path ++ ": read error: Invalid argument")
    else c.complain ("failed to open " ++ quoted path ++ " for reading: " ++ e.reason)
  let copy (f : String → String) : Action Nat := do
    let (texts, status) ← readFilesWith readFile tell w.files
    c.finish ("".intercalate (texts.map f)) status
  if w.has "r" then
    if given = "" then c.fail 1 "separator cannot be empty"
    else match Regex.read { isExtended := false, isTolerant := false }
        (String.ofList (swapOperators given.toList)) with
      | .error flaw => c.fail 1 flaw.message
      | .ok p => copy (Separator.reversed (.pattern p.compiled) (w.has "b"))
  else if given = "\n" && !w.has "b" then copy reverseLines
  else
    let word := arrayOfOctets (if given = "" then "\x00" else given)
    copy (Separator.reversed (.word word) (w.has "b"))

/-! ### Lines -/

/-- A text with the characters of each line in reverse order. -/
def reverseEach (ending : Char) (text : String) : String :=
  let lines := (linesOf ending text).map fun l => String.ofList l.toList.reverse
  (String.singleton ending).intercalate lines ++
    (if lines.isEmpty || !endsLine ending text then "" else String.singleton ending)

/-- Copies files with the characters of each line in reverse order. -/
def rev : Program := fun c =>
  c.withWords [⟨"0", ["zero"], .plain⟩] fun w => do
  let ending := if w.has "0" then '\x00' else '\n'
  let tell (path : String) (e : FileError) : Action Unit :=
    c.complain ("cannot open " ++ path ++ ": " ++ e.reason)
  let (texts, status) ← match w.operands with
    | [] => readFilesWith readFile tell ["-"]
    | paths => readFilesWith (withFile · readRest) tell paths
  c.finish ("".intercalate (texts.map (reverseEach ending))) status

end LuaBundler.Utility
