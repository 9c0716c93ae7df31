import LuaBundler.Utility.Basic

/-!
# Options of utilities

An option has a letter, or longer names of which a start is enough if no other name has it. Options
may stand between the operands, unless the first operand ends them.
-/

namespace LuaBundler.Utility

open LuaBundler.System

/-- Whether an option has an argument. -/
inductive Arity where
  | plain
  | required
  /-- Only in the same word. -/
  | possible
  deriving DecidableEq

/-- An option: its key, which is its letter if it has one, and its longer names. -/
structure Choice where
  key : String
  names : List String := []
  arity : Arity := .plain

/-- The options and operands that were read, the options in order with their arguments. -/
structure Words where
  options : List (String × String) := []
  operands : List String := []
  /-- The words that options were read from. -/
  spelled : List String := []

namespace Words

/-- Whether an option was given. -/
def has (w : Words) (key : String) : Bool :=
  w.options.any (·.1 == key)

/-- The last argument of an option. -/
def get? (w : Words) (key : String) : Option String :=
  (w.options.reverse.find? (·.1 == key)).map (·.2)

/-- The last of several options that was given. -/
def last? (w : Words) (keys : List String) : Option String :=
  (w.options.reverse.find? fun o => keys.contains o.1).map (·.1)

end Words

namespace Options

/-- The options whose longer names start with a text: those with just that name first. -/
def named (choices : List Choice) (text : String) : List (String × Choice) :=
  let all := choices.flatMap fun c => c.names.map fun n => (n, c)
  match all.filter (·.1 == text) with
  | [] => all.filter fun n => text.isPrefixOf n.1
  | exact => exact.take 1

/-- Reads an option of a longer name. -/
def readLong (choices : List Choice) (word : String) (rest : List String) :
    Except String ((String × String) × List String) :=
  let cs := word.toList
  let name := cs.takeWhile (· ≠ '=')
  let value? := (cs.drop name.length).head?.map fun _ => String.ofList (cs.drop (name.length + 1))
  let name := String.ofList name
  match named choices name with
  | [] => .error ("unrecognized option '--" ++ name ++ "'")
  | (full, c) :: others =>
    if others.any fun o => o.2.key != c.key then
      .error ("option '--" ++ name ++ "' is ambiguous; possibilities:" ++
        "".intercalate (((full, c) :: others).map fun o => " '--" ++ o.1 ++ "'"))
    else match c.arity, value?, rest with
      | .plain, none, _ => .ok ((c.key, ""), rest)
      | .plain, some _, _ => .error ("option '--" ++ full ++ "' doesn't allow an argument")
      | _, some value, _ => .ok ((c.key, value), rest)
      | .possible, none, _ => .ok ((c.key, ""), rest)
      | .required, none, value :: rest => .ok ((c.key, value), rest)
      | .required, none, [] => .error ("option '--" ++ full ++ "' requires an argument")

/-- Reads the letters of a word. -/
def readLetters (choices : List Choice) :
    List Char → List String → Except String (List (String × String) × List String)
  | [], rest => .ok ([], rest)
  | c :: cs, rest =>
    match choices.find? (·.key == String.singleton c) with
    | none => .error ("invalid option -- '" ++ String.singleton c ++ "'")
    | some choice =>
      match choice.arity, cs, rest with
      | .plain, _, _ => do
        let (found, rest) ← readLetters choices cs rest
        return ((choice.key, "") :: found, rest)
      | .possible, _, _ => .ok ([(choice.key, String.ofList cs)], rest)
      | .required, [], value :: rest => .ok ([(choice.key, value)], rest)
      | .required, [], [] =>
        .error ("option requires an argument -- '" ++ String.singleton c ++ "'")
      | .required, _, _ => .ok ([(choice.key, String.ofList cs)], rest)

/-- Reads words; `stops` says whether the first operand ends the options. -/
def readWithin (choices : List Choice) (stops : Bool) :
    Nat → List String → Words → Except String Words
  | 0, _, w => .ok w
  | _ + 1, [], w => .ok w
  | steps + 1, word :: rest, w =>
    let spelled (left : List String) : List String :=
      w.spelled ++ word :: rest.take (rest.length - left.length)
    if word = "--" then
      .ok { w with operands := w.operands ++ rest, spelled := w.spelled ++ [word] }
    else match word.toList with
      | '-' :: '-' :: long => do
        let (found, left) ← readLong choices (String.ofList long) rest
        readWithin choices stops steps left
          { w with options := w.options ++ [found], spelled := spelled left }
      | '-' :: c :: cs => do
        let (found, left) ← readLetters choices (c :: cs) rest
        readWithin choices stops steps left
          { w with options := w.options ++ found, spelled := spelled left }
      | _ =>
        if stops then .ok { w with operands := w.operands ++ word :: rest }
        else readWithin choices stops steps rest { w with operands := w.operands ++ [word] }

/-- Reads options and operands. -/
def read (choices : List Choice) (stops : Bool) (args : List String) : Except String Words :=
  readWithin choices stops (args.length + 1) args {}

end Options

/-- Goes on with the options and operands of a call, or complains of them. -/
def Call.withWords (c : Call) (choices : List Choice) (f : Words → Action Nat)
    (status : Nat := 1) (stops : Bool := false) : Action Nat :=
  match Options.read choices stops c.args with
  | .ok w => f w
  | .error reason => c.misused status reason

/-- The value that the argument of an option names: values have names, of which a start is enough if
no other value has it. -/
def namedValue (option : String) (values : List (List String)) (text : String) :
    Except String String :=
  let all : List (String × String) :=
    values.flatMap fun names => names.map fun n => (n, names.headD "")
  let found : List (String × String) := match all.filter (·.1 == text) with
    | [] => all.filter fun n => text.isPrefixOf n.1
    | those => those
  let complaint (kind : String) : String :=
    kind ++ " argument " ++ cited text ++ " for '" ++ option ++ "'\nValid arguments are:" ++
      "".intercalate (values.map fun names => "\n  - " ++ ", ".intercalate (names.map cited))
  match found with
  | [] => .error (complaint "invalid")
  | (_, value) :: others =>
    if others.any (·.2 != value) then .error (complaint "ambiguous") else .ok value

/-- Options without arguments by their letters. -/
def letters (text : String) : List Choice :=
  text.toList.map fun c => { key := String.singleton c }

end LuaBundler.Utility
