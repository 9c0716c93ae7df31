import LuaBundler.Utility.Amounts
import LuaBundler.Utility.Options

/-!
# Utilities: portions

Copying the starts and the ends of files: so many lines or bytes, or all but those.
-/

namespace LuaBundler.Utility

open LuaBundler.Files LuaBundler.System LuaBundler.Text

/-! ### Heads -/

/-- How much of a file is meant: so many lines or bytes, or all but those. -/
structure Portion where
  ofBytes : Bool
  count : Nat
  isRest : Bool

/-- How far into a text a number of lines reaches. -/
def afterLines (ending : Char) : Nat → List Char → Nat → Nat
  | _, [], used => used
  | 0, _, used => used
  | n + 1, c :: cs, used =>
    if c = ending then (if n = 0 then used + 1 else afterLines ending n cs (used + 1))
    else afterLines ending (n + 1) cs (used + 1)

/-- How many lines a text has begun. -/
def countEnds (ending : Char) (text : String) : Nat :=
  text.foldl (fun n c => if c = ending then n + 1 else n) 0

/-- Copies the first lines or bytes of what a number stands for, and goes back to behind them. -/
def copyStart (ending : Char) (ofBytes : Bool) (number : Nat) :
    Nat → Nat → Action (Except FileError Unit)
  | 0, _ => return .ok ()
  | steps + 1, count => do
    if count = 0 then return .ok ()
    else match ← readPiece number with
    | .error e => return .error e
    | .ok bytes =>
      if bytes.size = 0 then return .ok ()
      else
        let text := octetsOfArray bytes
        let used := if ofBytes then min count bytes.size else afterLines ending count text.toList 0
        let ends := if ofBytes then used else countEnds ending (String.ofList (text.toList.take used))
        discard (writeBytes 1 (bytes.extract 0 used))
        if ends < count then copyStart ending ofBytes number steps (count - ends)
        else
          discard (ask (.seek number ((used : Int) - bytes.size) .here))
          return .ok ()

/-- A text without its last lines. -/
def dropLastLines (ending : Char) (count : Nat) (text : String) : String :=
  let lines := linesOf ending text
  let kept := lines.take (lines.length - count)
  if count = 0 then text else joinLines ending kept

/-- Copies the start of what a number stands for. -/
def copyHead (ending : Char) (p : Portion) (number : Nat) : Action (Except FileError Unit) := do
  if p.isRest then
    match ← readRest number with
    | .error e => return .error e
    | .ok text =>
      let text := if p.ofBytes then String.ofList (text.toList.take (text.length - p.count))
        else dropLastLines ending p.count text
      discard (write 1 text)
      return .ok ()
  else copyStart ending p.ofBytes number maxSteps p.count

/-- Does something with each of several files, with titles between them. -/
def eachFile (c : Call) (titles isFirst : Bool) (f : Nat → Action (Except FileError Unit))
    (status : Nat) : List String → Action Nat
  | [] => return status
  | path :: paths => do
    let name := if path = "-" then "standard input" else path
    let opened ← if path = "-" then pure (.ok 0) else ask (.open path { read := true })
    match opened with
    | .error e =>
      c.complain ("cannot open " ++ quoted name ++ " for reading: " ++ e.reason)
      eachFile c titles isFirst f 1 paths
    | .ok number =>
      if titles then
        discard (write 1 ((if isFirst then "" else "\n") ++ "==> " ++ name ++ " <==\n"))
      let result ← f number
      if path ≠ "-" then discard (ask (.close number))
      match result with
      | .ok _ => eachFile c titles false f status paths
      | .error e =>
        c.complain ("error reading " ++ quoted name ++ ": " ++ e.reason)
        eachFile c titles false f 1 paths

/-- The options that `head` and `tail` have in common. A digit is none that can be used. -/
def portionChoices : List Choice := [⟨"c", ["bytes"], .required⟩, ⟨"n", ["lines"], .required⟩,
  ⟨"q", ["quiet", "silent"], .plain⟩, ⟨"v", ["verbose"], .plain⟩,
  ⟨"z", ["zero-terminated"], .plain⟩] ++ letters "0123456789"

/-- The first digit that was given as an option. -/
def strayDigit? (w : Words) : Option String :=
  (w.options.find? fun o => (natural? o.1).isSome).map (·.1)

/-- Whether titles are printed. -/
def wantsTitles (w : Words) : Bool :=
  match w.last? ["q", "v"] with
  | some "q" => false
  | some _ => true
  | none => 1 < w.operands.length

/-- The portion that an option asks for. A `special` sign says that the rest is meant; a minus sign
says nothing more. -/
def readPortion (special : Char) (ofBytes : Bool) (text : String) : Except String Portion :=
  let (isRest, text) : Bool × String := match text.toList with
    | '-' :: cs => (special == '-', String.ofList cs)
    | '+' :: _ => (special == '+', text)
    | _ => (false, text)
  match sizes.read text with
  | .ok n => .ok ⟨ofBytes, n.toNat, isRest⟩
  | .error f => .error (f.message ("number of " ++ if ofBytes then "bytes" else "lines") text)

/-- Goes on with the portion that options ask for, or complains. -/
def withPortion (c : Call) (w : Words) (special : Char) (f : Portion → Action Nat) : Action Nat :=
  let given := w.options.filter fun o => o.1 = "c" || o.1 = "n"
  match given.mapM fun o => readPortion special (o.1 = "c") o.2 with
  | .ok portions => f (portions.getLastD ⟨false, 10, false⟩)
  | .error reason => c.fail 1 reason

/-- The arguments of `head` with an option instead of a number that is the first of them. -/
def headArgs (args : List String) : Except String (List String) :=
  match args.map String.toList with
  | ('-' :: cs) :: _ =>
    let ds := cs.takeWhile Char.isDigit
    let suffix := cs.drop ds.length
    if ds = [] then .ok args
    else match suffix.find? fun c => !("cbkmlqvz".toList.contains c) with
      | some c => .error ("invalid trailing option -- " ++ String.singleton c)
      | none =>
        let units := suffix.filter "cbkml".toList.contains
        let unit := units.getLastD 'l'
        let digits := String.ofList ds ++ (if "bkm".toList.contains unit then unit.toString else "")
        let flags := (suffix.filter "qvz".toList.contains).map fun c => "-" ++ c.toString
        .ok ((if unit = 'l' then "-n" else "-c") :: digits :: flags ++ args.drop 1)
  | _ => .ok args

/-- Copies the starts of files. -/
def head : Program := fun c =>
  match headArgs c.args with
  | .error reason => c.misused 1 reason
  | .ok args => { c with args }.withWords portionChoices fun w =>
    match strayDigit? w with
    | some d => c.misused 1 ("invalid trailing option -- " ++ d)
    | none => withPortion c w '-' fun p =>
      eachFile c (wantsTitles w) true (copyHead (if w.has "z" then '\x00' else '\n') p) 0
        (if w.operands.isEmpty then ["-"] else w.operands)

/-! ### Tails -/

/-- The end of a text. -/
def tailOf (ending : Char) (p : Portion) (text : String) : String :=
  if p.ofBytes then
    String.ofList (text.toList.drop (if p.isRest then p.count - 1 else text.length - p.count))
  else if p.isRest then
    String.ofList (text.toList.drop (afterLines ending (p.count - 1) text.toList 0))
  else
    let lines := countEnds ending text + (if endsLine ending text then 0 else 1)
    String.ofList (text.toList.drop (afterLines ending (lines - p.count) text.toList 0))

/-- Whether a first argument of `tail` may be a number without an option's letter. -/
def allowsNumber : List String → Bool
  | [_] => true
  | [_, "--"] | [_, "--", _] => true
  | [_, path] => !(path.startsWith "-" && 1 < path.length)
  | _ => false

/-- The arguments of `tail` with an option instead of a number that is the first of them: a sign,
digits, and letters for what is counted and for whether the file is watched. -/
def tailArgs (args : List String) : List String :=
  match args.map String.toList with
  | (sign :: cs) :: _ =>
    let ds := cs.takeWhile Char.isDigit
    let (unit, rest) := match cs.drop ds.length with
      | 'b' :: rest => ('b', rest)
      | 'c' :: rest => ('c', rest)
      | 'l' :: rest => ('l', rest)
      | rest => ('l', rest)
    let isNumber := (sign = '+' || (sign = '-' && cs ≠ [] && cs ≠ ['c'])) &&
      (rest = [] || rest = ['f'])
    if isNumber && allowsNumber args then
      let count := (if ds = [] then "10" else String.ofList ds) ++ (if unit = 'b' then "b" else "")
      [if unit = 'l' then "-n" else "-c", (if sign = '+' then "+" else "") ++ count] ++
        (if rest = [] then [] else ["-f"]) ++ args.drop 1
    else args
  | _ => args

/-- Waits for something that does not come. -/
def waitOn : Nat → Action Nat
  | 0 => return 0
  | steps + 1 => do
    discard (ask (.sleep 1000000000))
    waitOn steps

/-- The options that only `tail` has. -/
def tailChoices : List Choice := [⟨"f", [], .plain⟩, ⟨"follow", ["follow"], .possible⟩,
  ⟨"F", [], .plain⟩, ⟨"pid", ["pid"], .required⟩, ⟨"retry", ["retry"], .plain⟩,
  ⟨"s", ["sleep-interval"], .required⟩,
  ⟨"max-unchanged-stats", ["max-unchanged-stats"], .required⟩]

/-- Copies the ends of files. -/
def tail : Program := fun c =>
  { c with args := tailArgs c.args }.withWords (portionChoices ++ tailChoices) fun w =>
    match strayDigit? w with
    | some d => c.fail 1 ("option used in invalid context -- " ++ d)
    | none => withPortion c w '+' fun p => do
      let mode := (w.get? "follow").getD ""
      if let .error reason := namedValue "--follow" [["descriptor"], ["name"]]
          (if mode = "" then "name" else mode) then return ← c.misused 1 reason
      let follows := w.has "f" || w.has "follow" || w.has "F"
      if w.has "retry" && !follows then
        c.complain "warning: --retry ignored; --retry is useful only when following"
      if w.has "pid" && !follows then
        c.complain "warning: PID ignored; --pid=PID is useful only when following"
      if p.count = 0 && !p.isRest && !follows then return 0
      let status ← eachFile c (wantsTitles w) true (fun number => do
        match ← readRest number with
        | .error e => return .error e
        | .ok text =>
          let text := tailOf (if w.has "z" then '\x00' else '\n') p text
          discard (write 1 text)
          return .ok ()) 0 (if w.operands.isEmpty then ["-"] else w.operands)
      if !follows || w.operands.isEmpty then return status
      else if (← w.operands.filterM fun path => return (← facts? path true).isSome).isEmpty && !w.has "F"
      then c.fail 1 "no files remaining"
      else waitOn maxSteps

end LuaBundler.Utility
