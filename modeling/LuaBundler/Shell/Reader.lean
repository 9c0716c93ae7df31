import LuaBundler.Shell.Syntax

/-!
# Reading scripts

A reader goes through the text of a script character by character. What an alias stands for is read
before the rest of the script, and no alias is read while it is being read. If more of the script
may follow, a reader that needs it stops as incomplete.

Here-documents are met on the line before they are read. A reader is therefore told the documents
that are known already; it collects those that it reads, so that a second reading knows them all.
-/

namespace LuaBundler.Shell

/-- What the next token may be besides a word. -/
structure Expectation where
  /-- Whether line ends are passed over. -/
  newlines : Bool := false
  keywords : Bool := false
  aliases : Bool := false
  /-- Whether the next word marks the end of a document, and has no expansions. -/
  endMark : Bool := false

/-- A here-document that is still to be read. -/
structure PendingDocument where
  number : Nat
  mark : List Char
  stripsTabs : Bool
  isLiteral : Bool

/-- A redirection whose word is still to be read. -/
inductive PendingRedirect where
  | open (number : Nat) (access : Access)
  | copy (number : Nat) (isInput : Bool)
  | document (number : Nat) (stripsTabs : Bool)

/-- Why a script cannot be read. -/
inductive ReadError where
  /-- It may go on. -/
  | incomplete
  | bad (line : Nat) (reason : String)

/-- A reader of a script. -/
structure Reader where
  rest : List Char
  /-- What follows the alias that is being read, with the alias. -/
  outer : List (List Char × String) := []
  /-- The last character that was read. -/
  last? : Option Char := none
  mayGoOn : Bool
  line : Nat
  aliases : List (String × String) := []
  expects : Expectation := {}
  /-- Whether the last token is to be read once more. -/
  isPushedBack : Bool := false
  token : Token := .eof
  word : Word := []
  /-- Whether something in the last word is quoted. -/
  hasQuotes : Bool := false
  redirect : PendingRedirect := .copy 0 true
  pending : List PendingDocument := []
  /-- How many documents have been met, those that are known, and those that have been read. -/
  met : Nat := 0
  known : List (Nat × Word) := []
  documents : List (Nat × Word) := []

/-- Reading. -/
abbrev Reading := EStateM ReadError Reader

namespace Reading

/-- Stops because a script makes no sense. -/
def complain {α : Type} (reason : String) : Reading α := do
  throw (.bad (← get).line reason)

/-- Stops because of the last token, naming the token that was expected. -/
def unexpected {α : Type} (expected : Option Token) : Reading α := do
  let found := (← get).token.name ++ " unexpected"
  match expected with
  | some t => complain (found ++ " (expecting " ++ t.name ++ ")")
  | none => complain found

/-- The reader after the texts of aliases that are at their end. -/
def leaveAliases (r : Reader) : List (List Char × String) → Reader
  | [] => r
  | (rest, _) :: outer =>
    let ended := r.rest.isEmpty
    if ended then
      let blank := r.last? = some ' ' || r.last? = some '\t'
      leaveAliases
        { r with rest, outer, expects := { r.expects with aliases := r.expects.aliases || blank } }
        outer
    else r

/-- The next character, if there is one. -/
def next : Reading (Option Char) := do
  let r ← get
  let r := if r.rest.isEmpty then leaveAliases r r.outer else r
  match r.rest with
  | c :: rest =>
    set { r with rest, last? := some c }
    return some c
  | [] =>
    if r.mayGoOn then throw .incomplete
    set r
    return none

/-- Gives a character back. -/
def unread (c : Option Char) : Reading Unit :=
  match c with
  | some c => modify fun r => { r with rest := c :: r.rest }
  | none => pure ()

/-- Counts a line end. -/
def countLine : Reading Unit :=
  modify fun r => { r with line := r.line + 1 }

/-- The number of joined lines that are followed at most. -/
def maxJoins : Nat := 1000000000

/-- The next character after line ends that a backslash takes away. -/
def nextJoinedWithin : Nat → Reading (Option Char)
  | 0 => next
  | joins + 1 => do
    match ← next with
    | some '\\' =>
      match ← next with
      | some '\n' => countLine; nextJoinedWithin joins
      | c => unread c; return some '\\'
    | c => return c

/-- The next character after line ends that a backslash takes away. -/
def nextJoined : Reading (Option Char) :=
  nextJoinedWithin maxJoins

/-- Reads a character if it is the expected one. -/
def accept (c : Char) : Reading Bool := do
  let d ← nextJoined
  if d = some c then return true
  else
    unread d
    return false

end Reading

end LuaBundler.Shell
