import LuaBundler.Utility.Records.Pattern

/-!
# Record programs

A record program is a list of rules, which say what is done with which records, and functions. This
module holds their parts: expressions, statements, rules.
-/

namespace LuaBundler.Utility.Records

/-- An operator on numbers. -/
inductive Operator where
  | plus
  | minus
  | times
  | divide
  | modulo
  | power
  deriving DecidableEq

/-- A comparison. -/
inductive Relation where
  | less
  | lessEqual
  | equal
  | unequal
  | greater
  | greaterEqual
  deriving DecidableEq

/-- A function that every program has. -/
inductive Builtin where
  | length
  | substr
  | index
  | split
  | sub
  | gsub
  | match_
  | sprintf
  | sin
  | cos
  | atan2
  | exp
  | log
  | sqrt
  | int
  | rand
  | srand
  | tolower
  | toupper
  | system
  | close
  | fflush
  deriving DecidableEq

/-- The functions that every program has, with how many arguments they take at least and at most. -/
def builtins : List (String × Builtin × Nat × Nat) := [("length", .length, 0, 1),
  ("substr", .substr, 2, 3), ("index", .index, 2, 2), ("split", .split, 2, 3), ("sub", .sub, 2, 3),
  ("gsub", .gsub, 2, 3), ("match", .match_, 2, 2), ("sprintf", .sprintf, 1, 255),
  ("sin", .sin, 1, 1), ("cos", .cos, 1, 1), ("atan2", .atan2, 2, 2), ("exp", .exp, 1, 1),
  ("log", .log, 1, 1), ("sqrt", .sqrt, 1, 1), ("int", .int, 1, 1), ("rand", .rand, 0, 0),
  ("srand", .srand, 0, 1), ("tolower", .tolower, 1, 1), ("toupper", .toupper, 1, 1),
  ("system", .system, 1, 1), ("close", .close, 1, 1), ("fflush", .fflush, 0, 1)]

/-- An expression. -/
inductive Expr where
  | number (x : Float)
  | text (s : String)
  | pattern (p : Regex.Compiled)
  | name (s : String)
  | field (i : Expr)
  | item (array : String) (keys : List Expr)
  /-- Sets a place to a value, or to what an operator makes of both. -/
  | assign (op? : Option Operator) (place value : Expr)
  /-- Makes a place one more or less; gives the value after that, or before. -/
  | step (isUp givesNew : Bool) (place : Expr)
  | negated (e : Expr)
  | minus (e : Expr)
  | plus (e : Expr)
  | binary (op : Operator) (a b : Expr)
  | joined (a b : Expr)
  | compare (r : Relation) (a b : Expr)
  | matches_ (isNegated : Bool) (a b : Expr)
  | and (a b : Expr)
  | or (a b : Expr)
  | choice (c a b : Expr)
  | has (keys : List Expr) (array : String)
  | call (function : String) (args : List Expr)
  | builtin (b : Builtin) (args : List Expr)
  /-- Reads a record of the input, into a place if there is one. -/
  | getline (place? : Option Expr)
  | getlineFrom (file : Expr) (place? : Option Expr)
  | getlineOf (command : Expr) (place? : Option Expr)
  | group (e : Expr)

namespace Expr

/-- Whether a value can be put where an expression is. -/
def isPlace : Expr → Bool
  | name _ | field _ | item .. => true
  | _ => false

end Expr

/-- Where output goes. -/
inductive Outlet where
  | file (e : Expr)
  | append (e : Expr)
  | pipe (e : Expr)

/-- A statement. -/
inductive Stmt where
  | expr (e : Expr)
  | print (args : List Expr) (outlet? : Option Outlet)
  | printf (args : List Expr) (outlet? : Option Outlet)
  | branch (c : Expr) (a : Stmt) (b? : Option Stmt)
  | while_ (c : Expr) (body : Stmt)
  | doWhile (body : Stmt) (c : Expr)
  | for_ (start? : Option Stmt) (c? : Option Expr) (step? : Option Stmt) (body : Stmt)
  | forIn (name array : String) (body : Stmt)
  | block (body : List Stmt)
  | break_
  | continue_
  | next
  | nextFile
  | exit (e? : Option Expr)
  | return_ (e? : Option Expr)
  | delete (array : String) (keys : List Expr)

/-- Which records a rule is for. -/
inductive Guard where
  | start
  | finish
  | always
  | when_ (e : Expr)
  | range (a b : Expr)

/-- What is done with which records. -/
structure Rule where
  guard : Guard
  /-- What is done; if nothing is said, the record is printed. -/
  action? : Option Stmt

/-- A function with its parameters. -/
structure Function where
  name : String
  params : List String
  body : Stmt

/-- A program. -/
structure Script where
  rules : List Rule := []
  functions : List Function := []

end LuaBundler.Utility.Records
