/-!
# Values of a settings text

A settings text gives a table of values. A table remembers how it was made, because that decides
whether it may still be extended: a table written as a value never, a table made by a dotted key
only by dotted keys, and a table that a header implied once by its own header.

The operations add to a table without ever replacing anything: each is undefined where a key is
taken.
-/

namespace LuaBundler.Toml

/-- How a table was made. -/
inductive Origin where
  /-- Written in braces. -/
  | inline
  /-- Made by a dotted key. -/
  | dotted
  /-- Opened by its own header. -/
  | header
  /-- Implied by the header of a table inside it. -/
  | implied
  deriving Repr, DecidableEq

/-- A value of a settings text. Numbers with a fraction and dates are not among them. -/
inductive Value where
  | string (value : String)
  | integer (value : Int)
  | bool (value : Bool)
  | array (items : List Value)
  | table (origin : Origin) (members : List (String × Value))
  deriving Repr, Inhabited

/-- The members of a table, in the order they were made. -/
abbrev Members := List (String × Value)

namespace Members

/-- Replaces the value of a key that is there. -/
def replace (ms : Members) (key : String) (v : Value) : Members :=
  ms.map fun m => if m.1 == key then (key, v) else m

/-- Adds a value under a dotted key. -/
def assign (ms : Members) : List String → Value → Option Members
  | [], _ => none
  | [key], v => if (ms.lookup key).isSome then none else some (ms ++ [(key, v)])
  | key :: rest, v =>
    match ms.lookup key with
    | none => (assign [] rest v).map fun inner => ms ++ [(key, .table .dotted inner)]
    | some (.table .dotted inner) =>
      (assign inner rest v).map fun inner => replace ms key (.table .dotted inner)
    | some _ => none

/-- Opens a table by its header. -/
def openTable (ms : Members) : List String → Option Members
  | [] => none
  | [key] =>
    match ms.lookup key with
    | none => some (ms ++ [(key, .table .header [])])
    | some (.table .implied inner) => some (replace ms key (.table .header inner))
    | some _ => none
  | key :: rest =>
    match ms.lookup key with
    | none => (openTable [] rest).map fun inner => ms ++ [(key, .table .implied inner)]
    | some (.table .inline _) => none
    | some (.table origin inner) =>
      (openTable inner rest).map fun inner => replace ms key (.table origin inner)
    | some _ => none

/-- Changes the members of the table at a path. -/
def updateAt (ms : Members) (change : Members → Option Members) : List String → Option Members
  | [] => change ms
  | key :: rest =>
    match ms.lookup key with
    | some (.table origin inner) =>
      (updateAt inner change rest).map fun inner => replace ms key (.table origin inner)
    | _ => none

/-- A key is given once: assigning it a second time is refused. -/
theorem assign_of_isSome {ms : Members} {key : String} (h : (ms.lookup key).isSome = true)
    (v : Value) : assign ms [key] v = none := by
  simp [assign, h]

end Members

end LuaBundler.Toml
