/-!
# Shell scripts

What scripts are made of: words with their quoting and expansions, redirections, and commands, each
with the line it stands on.

A word is a list of pieces. Quotation marks are pieces of their own, because a word of nothing but
quotation marks is an empty word, and a word of nothing is none.
-/

namespace LuaBundler.Shell

/-- How a parameter is expanded. -/
inductive Form where
  | plain
  | length
  /-- Another value if there is none. -/
  | otherwise
  /-- Another value if there is one. -/
  | instead
  /-- A failure if there is none. -/
  | demand
  /-- Another value if there is none, and the parameter is set to it. -/
  | assign
  /-- Without the shortest or the longest start that matches a pattern. -/
  | dropStart (longest : Bool)
  /-- Without the shortest or the longest end that matches a pattern. -/
  | dropEnd (longest : Bool)
  /-- No way to expand a parameter. -/
  | bad
  deriving DecidableEq

/-- How a redirection opens a file. -/
inductive Access where
  | read
  | write
  /-- Writing, also where files must not be overwritten. -/
  | overwrite
  | append
  | readWrite
  deriving DecidableEq

mutual

/-- A piece of a word. -/
inductive Piece where
  | char (c : Char) (isQuoted : Bool)
  | mark
  /-- A parameter; with `strict`, an empty value counts as none. -/
  | parameter (name : String) (form : Form) (strict : Bool) (word : List Piece)
  | command (body : Option Node)
  | arithmetic (text : List Piece)

/-- A redirection of a number that stands for an open file. -/
inductive Redirect where
  | open (number : Nat) (access : Access) (path : List Piece)
  /-- From another number, or from none for `-`. -/
  | copy (number : Nat) (isInput : Bool) (source : List Piece)
  /-- From a text, which is expanded unless it is literal. -/
  | document (number : Nat) (isLiteral : Bool) (text : List Piece)

/-- A command. -/
inductive Node where
  /-- Assignments, words and redirections. -/
  | simple (line : Nat) (assignments words : List (List Piece)) (redirects : List Redirect)
  | pipeline (commands : List Node) (isBackground : Bool)
  | redirected (line : Nat) (body : Node) (redirects : List Redirect)
  | background (line : Nat) (body : Node) (redirects : List Redirect)
  | subshell (line : Nat) (body : Node) (redirects : List Redirect)
  | both (first second : Node)
  | either (first second : Node)
  | sequence (first second : Node)
  | negate (body : Node)
  | choice (test body : Node) (otherwise : Option Node)
  /-- A loop that goes on while its test fails, if `untilTrue`, or else while it succeeds. -/
  | loop (untilTrue : Bool) (test body : Node)
  | each (line : Nat) (name : String) (words : List (List Piece)) (body : Node)
  | cases (line : Nat) (subject : List Piece) (arms : List (List (List Piece) × Option Node))
  | define (line : Nat) (name : String) (body : Node)

end

/-- A word. -/
abbrev Word := List Piece

instance : Inhabited Node := ⟨.simple 0 [] [] []⟩

/-- The text of a word without its quoting, up to its first expansion. -/
def Word.literal : Word → List Char
  | .char c _ :: rest => c :: Word.literal rest
  | .mark :: rest => Word.literal rest
  | _ => []

/-- The text that a word starts with, up to the first piece that is quoted or an expansion. -/
def Word.bare : Word → List Char
  | .char c false :: rest => c :: Word.bare rest
  | _ => []

/-- Whether a word has neither quoting nor expansions. -/
def Word.isBare : Word → Bool
  | [] => true
  | .char _ false :: rest => Word.isBare rest
  | _ => false

/-! ### Names -/

/-- Whether a name can start with a character. -/
def startsName (c : Char) : Bool :=
  c.isAlpha || c = '_'

/-- Whether a name can have a character after its first one. -/
def continuesName (c : Char) : Bool :=
  c.isAlphanum || c = '_'

/-- Whether a text is a name. -/
def isName : List Char → Bool
  | [] => false
  | c :: cs => startsName c && cs.all continuesName

/-- Whether a character is the name of a special parameter. -/
def isSpecial (c : Char) : Bool :=
  "@*#?-$!0".toList.contains c

/-- The name that a text assigns to, with the value, if it is an assignment. -/
def assignment? (text : List Char) : Option (String × String) :=
  let name := text.takeWhile continuesName
  match text.drop name.length with
  | '=' :: value => if isName name then some (String.ofList name, String.ofList value) else none
  | _ => none

/-- Whether a word is an assignment. -/
def Word.isAssignment (w : Word) : Bool :=
  (assignment? w.bare).isSome

/-! ### Tokens

What a script is cut into, and how tokens are called in complaints. -/

/-- The reserved words. -/
inductive Keyword where
  | bang
  | caseWord
  | doWord
  | doneWord
  | elifWord
  | elseWord
  | esacWord
  | fiWord
  | forWord
  | ifWord
  | inWord
  | thenWord
  | untilWord
  | whileWord
  | openBrace
  | closeBrace
  deriving DecidableEq

/-- The reserved words as they are written. -/
def keywords : List (String × Keyword) := [("!", .bang), ("case", .caseWord), ("do", .doWord),
  ("done", .doneWord), ("elif", .elifWord), ("else", .elseWord), ("esac", .esacWord),
  ("fi", .fiWord), ("for", .forWord), ("if", .ifWord), ("in", .inWord), ("then", .thenWord),
  ("until", .untilWord), ("while", .whileWord), ("\x7b", .openBrace), ("\x7d", .closeBrace)]

/-- A token. -/
inductive Token where
  | eof
  | newline
  | semicolon
  | ampersand
  | and
  | or
  | pipe
  | openParen
  | closeParen
  | endArm
  | word
  | redirect
  | keyword (k : Keyword)
  deriving DecidableEq

/-- How a text is quoted in a complaint. -/
def quotedName (s : String) : String :=
  "\"" ++ s ++ "\""

/-- How a token is called. -/
def Token.name : Token → String
  | eof => "end of file"
  | newline => "newline"
  | semicolon => quotedName ";"
  | ampersand => quotedName "&"
  | and => quotedName "&&"
  | or => quotedName "||"
  | pipe => quotedName "|"
  | openParen => quotedName "("
  | closeParen => quotedName ")"
  | endArm => quotedName ";;"
  | word => "word"
  | redirect => "redirection"
  | keyword k => quotedName ((keywords.find? (·.2 == k)).elim "" (·.1))

/-- Whether a token ends a list of commands. -/
def Token.endsList : Token → Bool
  | eof | closeParen | endArm => true
  | keyword k =>
    k = .doWord || k = .doneWord || k = .elifWord || k = .elseWord || k = .esacWord ||
      k = .fiWord || k = .thenWord || k = .closeBrace
  | _ => false

end LuaBundler.Shell
