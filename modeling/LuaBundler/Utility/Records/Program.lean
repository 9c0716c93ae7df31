import LuaBundler.Utility.Records.Evaluation

/-!
# The record processor

How the record processor is called, and how a program gets its variables.
-/

namespace LuaBundler.Utility.Records

open LuaBundler.Files LuaBundler.System LuaBundler.Text

/-- What is said about how the program is called. -/
def usage : String := joinLines '\n' [
  "Usage: mawk [Options] [Program] [file ...]",
  "",
  "Program:",
  "    The -f option value is the name of a file containing program text.",
  "    If no -f option is given, a \"--\" ends option processing; the following",
  "    parameters are the program text.",
  "",
  "Options:",
  "    -f program-file  Program  text is read from file instead of from the",
  "                     command-line.  Multiple -f options are accepted.",
  "    -F value         sets the field separator, FS, to value.",
  "    -v var=value     assigns value to program variable var.",
  "    --               unambiguous end of options.",
  "",
  "    Implementation-specific options are prefixed with \"-W\".  They can be",
  "    abbreviated:",
  "",
  "    -W version       show version information and exit.",
  "    -W compat        pre-POSIX 2001.",
  "    -W dump          show assembler-like listing of program and exit.",
  "    -W help          show this message and exit.",
  "    -W interactive   set unbuffered output, line-buffered input.",
  "    -W exec file     use file as program as well as last option.",
  "    -W posix         stricter POSIX checking.",
  "    -W random=number set initial random seed.",
  "    -W sprintf=number adjust size of sprintf buffer.",
  "    -W usage         show this message and exit."]

/-- How the record processor is called. -/
structure Order where
  /-- The files that hold the program. -/
  files : List String := []
  separator? : Option String := none
  /-- The variables that are set before the program runs, with their values. -/
  settings : List (String × String) := []
  /-- The program, if no file holds it, and the arguments. -/
  rest : List String := []

/-- Why the record processor is not run. -/
inductive Refusal where
  | unknown (option : String)
  | lacksValue (option : String)
  | badSetting (text : String)

namespace Refusal

/-- What is said about a refusal. -/
def message : Refusal → String
  | unknown option => "not an option: " ++ option
  | lacksValue option => "option " ++ option ++ " lacks argument"
  | badSetting text => "improper assignment: -v " ++ text

end Refusal

/-- Reads the words of a call. -/
def Order.read : Nat → Order → List String → Except Refusal Order
  | 0, o, _ => .ok o
  | _ + 1, o, [] => .ok o
  | steps + 1, o, word :: words =>
    match word.toList with
    | ['-', '-'] => .ok { o with rest := words }
    | '-' :: letter :: attached =>
      if "fFvW".toList.contains letter then
        let value? : Option (String × List String) := match attached, words with
          | [], value :: words => some (value, words)
          | [], [] => none
          | attached, words => some (String.ofList attached, words)
        match value? with
        | none => .error (.lacksValue word)
        | some (value, words) =>
          if letter = 'f' then Order.read steps { o with files := o.files ++ [value] } words
          else if letter = 'F' then Order.read steps { o with separator? := some value } words
          else if letter = 'W' then Order.read steps o words
          else match Running.settingOf? value with
            | some setting => Order.read steps { o with settings := o.settings ++ [setting] } words
            | none => .error (.badSetting value)
      else .error (.unknown word)
    | _ => .ok { o with rest := word :: words }

/-- Sets the variables that a program starts with. -/
def Running.prepare (o : Order) (args : List String) : Running Unit := do
  let m ← get
  let plain : List (String × Value) := [("FS", .text " "), ("OFS", .text " "), ("RS", .text "\n"),
    ("ORS", .text "\n"), ("OFMT", .text "%.6g"), ("CONVFMT", .text "%.6g"),
    ("SUBSEP", .text "\x1c"), ("NR", .number 0.0), ("FNR", .number 0.0), ("RSTART", .number 0.0),
    ("RLENGTH", .number (-1.0)), ("ARGC", .ofInt (args.length + 1))]
  for (name, v) in plain do
    Running.setSlot name (.scalar v)
  let id ← Running.arrayOf "ARGV"
  Running.withTable id fun t =>
    ((("awk" :: args).zipIdx.foldl (fun (t : Table) (a, i) => t.set (.number i) (.outside a)) t), ())
  let id ← Running.arrayOf "ENVIRON"
  Running.withTable id fun t =>
    (m.call.env.foldl (fun (t : Table) e =>
      let name := e.toList.takeWhile (· ≠ '=')
      t.set (.text (String.ofList name)) (.outside (String.ofList (e.toList.drop (name.length + 1)))))
      t, ())
  for (name, text) in o.settings do
    Running.applySetting name text
  if let some s := o.separator? then
    Running.applySetting "FS" s

/-- Runs a program. -/
def runScript (c : Call) (o : Order) (text : String) (args : List String) : Action Nat := do
  match Script.read text with
  | .error flaws =>
    for flaw in flaws do
      c.complain flaw.text
    return 2
  | .ok s =>
    let m : Machine := {
      call := c
      functions := s.functions.foldl (fun fs f => fs.insert f.name f) ∅
      globals := ∅ }
    let body : Running Unit := do
      Running.prepare o args
      Running.run s
    let (_, m) ← (ExceptT.run body).run m
    return m.status

/-- Reads the files of a program; gives the path of the one that cannot be read. -/
def readFiles : List String → Action (Except (String × FileError) String)
  | [] => return .ok ""
  | path :: paths => do
    match ← readFile path with
    | .error e => return .error (path, e)
    | .ok text =>
      match ← readFiles paths with
      | .error e => return .error e
      | .ok rest => return .ok (if endsLine '\n' text then text ++ rest else text ++ "\n" ++ rest)

end Records

/-- Runs a record program. -/
def awk : Program := fun c =>
  match Records.Order.read (c.args.length + 1) {} c.args with
  | .error e => c.fail 2 e.message
  | .ok o =>
    match o.files, o.rest with
    | [], [] => do
      c.note Records.usage
      return 0
    | [], text :: args => Records.runScript c o text args
    | files, args => do
      match ← Records.readFiles files with
      | .ok text => Records.runScript c o text args
      | .error (path, e) =>
        c.fail 2 ("cannot open \"" ++ path ++ "\" (" ++ e.reason ++ ")")

end LuaBundler.Utility
