import LuaBundler.Utility.Calendar
import LuaBundler.Utility.Options

/-!
# Utilities: dates

Reading times as people write them, and printing them. What is written may name a day, a time of the
day, a day of the week, an offset from universal time, and steps from there; what it does not name is
as it is now.
-/

namespace LuaBundler.Utility

open LuaBundler.Files LuaBundler.System LuaBundler.Text

/-! ### Reading -/

/-- What has been read of a written time. -/
structure WrittenTime where
  /-- A time in seconds and nanoseconds that stands for itself. -/
  absolute? : Option (Int × Nat) := none
  date? : Option (Option Int × Nat × Nat) := none
  /-- Hour, minute, second and nanoseconds. -/
  clock? : Option (Nat × Nat × Nat × Nat) := none
  /-- The offset from universal time in minutes. -/
  offset? : Option Int := none
  /-- A day of the week, and which one of those that come. -/
  weekday? : Option (Nat × Int) := none
  months : Int := 0
  days : Int := 0
  seconds : Int := 0
  hasSteps : Bool := false

namespace WrittenTime

/-- Whether a character is a blank or a comma. -/
def isGap (c : Char) : Bool :=
  c = ' ' || c = ',' || (9 ≤ c.toNat && c.toNat ≤ 13)

/-- What follows blanks. -/
def skipGaps (cs : List Char) : List Char :=
  cs.dropWhile isGap

/-- The number that starts a text, the digits it has, and what follows. -/
def takeNumber? (cs : List Char) : Option (Nat × Nat × List Char) :=
  let ds := cs.takeWhile Char.isDigit
  (natural? (String.ofList ds)).map fun n => (n, ds.length, cs.drop ds.length)

/-- The word that starts a text, and what follows. -/
def takeWord (cs : List Char) : String × List Char :=
  let word := cs.takeWhile Char.isAlpha
  (String.ofList word, cs.drop word.length)

/-- Which of several names a word is, which may be cut off after three letters. -/
def nameIndex? (names : List String) (word : String) : Option Nat :=
  names.findIdx? fun n =>
    let n := n.map Char.toLower
    word = n || word = shortName n || (word = "sept" && n = "september") ||
      (["tues", "wednes", "thur", "thurs"].contains word && word.isPrefixOf n)

/-- The value of digits after a point in nanoseconds. -/
def nanosOf (ds : List Char) : Nat :=
  ((ds ++ List.replicate 9 '0').take 9).foldl (fun n c => n * 10 + (c.toNat - 48)) 0

/-- Reads digits after a point, if there are any. -/
def takeFraction (cs : List Char) : Nat × List Char :=
  match cs with
  | '.' :: c :: cs =>
    let ds := (c :: cs).takeWhile Char.isDigit
    if ds.isEmpty then (0, '.' :: c :: cs) else (nanosOf ds, (c :: cs).drop ds.length)
  | cs => (0, cs)

/-- The wish with so many steps of a unit. -/
def step? (t : WrittenTime) (n : Int) (unit : String) : Option WrittenTime :=
  let unit := if unit.length > 1 && unit.endsWith "s" then
    String.ofList unit.toList.dropLast else unit
  let t := { t with hasSteps := true }
  match unit with
  | "year" => some { t with months := t.months + 12 * n }
  | "month" => some { t with months := t.months + n }
  | "fortnight" => some { t with days := t.days + 14 * n }
  | "week" => some { t with days := t.days + 7 * n }
  | "day" => some { t with days := t.days + n }
  | "hour" => some { t with seconds := t.seconds + 3600 * n }
  | "minute" | "min" => some { t with seconds := t.seconds + 60 * n }
  | "second" | "sec" | "" => some { t with seconds := t.seconds + n }
  | _ => none

/-- The time with a date, of which there may be only one. -/
def withDate? (t : WrittenTime) (year : Option Int) (month day : Nat) : Option WrittenTime :=
  if t.date?.isSome then none else some { t with date? := some (year, month, day) }

/-- The time with a time of the day, of which there may be only one. -/
def withClock? (t : WrittenTime) (h m s n : Nat) : Option WrittenTime :=
  if t.clock?.isSome then none else some { t with clock? := some (h, m, s, n) }

/-- A year as it is written: with two digits it is one of those around the year 2000. -/
def fullYear (n digits : Nat) : Int :=
  if digits ≤ 2 then (if n < 69 then 2000 + n else 1900 + n) else n

/-- The hour of an hour before or after noon. -/
def halfHour? (hour : Nat) (word : String) : Option Nat :=
  if hour = 0 ∨ 12 < hour then none
  else if word = "am" then some (hour % 12)
  else if word = "pm" then some (hour % 12 + 12)
  else none

/-- Reads an offset from universal time after its sign. -/
def takeOffset? (sign : Int) (cs : List Char) : Option (Int × List Char) := do
  let (n, digits, rest) ← takeNumber? cs
  match rest with
  | ':' :: rest =>
    let (m, _, rest) ← takeNumber? rest
    return (sign * (n * 60 + m : Nat), rest)
  | rest =>
    if digits ≤ 2 then return (sign * (n * 60 : Nat), rest)
    else return (sign * (n / 100 * 60 + n % 100 : Nat), rest)

/-- Reads a time of the day after its hour and the colon. -/
def readClock? (t : WrittenTime) (hour : Nat) (cs : List Char) :
    Option (WrittenTime × List Char) := do
  let (minute, _, rest) ← takeNumber? cs
  let (second, nanos, rest) ← match rest with
    | ':' :: rest' => do
      let (second, _, rest') ← takeNumber? rest'
      let (nanos, rest') := takeFraction rest'
      pure (second, nanos, rest')
    | rest => pure (0, 0, rest)
  let (word, after) := takeWord (skipGaps rest)
  let (hour, rest) ← if word = "am" || word = "pm" then
      (halfHour? hour word).map fun h => (h, after)
    else some (hour, rest)
  let t ← t.withClock? hour minute second nanos
  match rest with
  | '+' :: c :: cs =>
    if c.isDigit then do
      let (offset, rest) ← takeOffset? 1 (c :: cs)
      return ({ t with offset? := some offset }, rest)
    else return (t, rest)
  | '-' :: c :: cs =>
    if c.isDigit then do
      let (offset, rest) ← takeOffset? (-1) (c :: cs)
      return ({ t with offset? := some offset }, rest)
    else return (t, rest)
  | rest => return (t, rest)

/-- Reads what starts with a number. -/
def readNumber? (t : WrittenTime) (n digits : Nat) (rest : List Char) :
    Option (WrittenTime × List Char) := do
  match rest with
  | ':' :: cs => t.readClock? n cs
  | '-' :: c :: cs =>
    if c.isDigit then
      let (month, _, rest) ← takeNumber? (c :: cs)
      match rest with
      | '-' :: rest =>
        let (day, _, rest) ← takeNumber? rest
        return (← t.withDate? (some (fullYear n digits)) month day, rest)
      | _ => none
    else
      let (word, rest) := takeWord (c :: cs)
      let month ← nameIndex? monthNames word
      match rest with
      | '-' :: rest =>
        let (year, digits, rest) ← takeNumber? rest
        return (← t.withDate? (some (fullYear year digits)) (month + 1) n, rest)
      | rest => return (← t.withDate? none (month + 1) n, rest)
  | '/' :: cs =>
    let (second, _, rest) ← takeNumber? cs
    match rest with
    | '/' :: rest =>
      let (third, thirdDigits, rest) ← takeNumber? rest
      if 4 ≤ digits then return (← t.withDate? (some n) second third, rest)
      else return (← t.withDate? (some (fullYear third thirdDigits)) n second, rest)
    | rest => return (← t.withDate? none n second, rest)
  | rest =>
    let (word, after) := takeWord (skipGaps rest)
    if word = "am" || word = "pm" then
      return (← t.withClock? (← halfHour? n word) 0 0 0, after)
    else match nameIndex? monthNames word with
    | some month =>
      match takeNumber? (skipGaps after) with
      | some (year, yearDigits, rest) =>
        if rest.head? = some ':' || yearDigits < 3 then
          return (← t.withDate? none (month + 1) n, after)
        else return (← t.withDate? (some (fullYear year yearDigits)) (month + 1) n, rest)
      | none => return (← t.withDate? none (month + 1) n, after)
    | none =>
      match (if word = "" then none else t.step? n word) with
      | some t => return (t, after)
      | none =>
        match t.date?, t.clock? with
        | some (none, month, day), _ =>
          return ({ t with date? := some (some (fullYear n digits), month, day) }, rest)
        | _, _ =>
          if digits = 8 then
            return (← t.withDate? (some (n / 10000 : Nat)) (n / 100 % 100) (n % 100), rest)
          else if digits ≤ 2 then return (← t.withClock? n 0 0 0, rest)
          else if digits ≤ 4 then return (← t.withClock? (n / 100) (n % 100) 0 0, rest)
          else none

/-- Zones by their names, with their offsets from universal time in minutes. -/
def zones : List (String × Int) := [("gmt", 0), ("ut", 0), ("utc", 0), ("wet", 0), ("west", 60),
  ("bst", 60), ("art", -180), ("brt", -180), ("brst", -120), ("nst", -210), ("ndt", -150),
  ("ast", -240), ("adt", -180), ("clt", -240), ("clst", -180), ("est", -300), ("edt", -240),
  ("cst", -360), ("cdt", -300), ("mst", -420), ("mdt", -360), ("pst", -480), ("pdt", -420),
  ("akst", -540), ("akdt", -480), ("hst", -600), ("hast", -600), ("hadt", -540), ("sst", -720),
  ("wat", 60), ("cet", 60), ("cest", 120), ("met", 60), ("mez", 60), ("mest", 120), ("mesz", 120),
  ("eet", 120), ("eest", 180), ("cat", 120), ("sast", 120), ("eat", 180), ("msk", 180),
  ("msd", 240), ("ist", 330), ("sgt", 480), ("kst", 540), ("jst", 540), ("gst", 600),
  ("nzst", 720), ("nzdt", 780)]

/-- The offset of a zone that has a letter: from `a` on to the east, from `n` on to the west; `j` is
the zone of the system. -/
def letterZone? (word : String) : Option Int :=
  match word.toList with
  | [c] =>
    if c = 'z' || c = 'j' then some 0
    else match "abcdefghiklm".toList.findIdx? (· == c), "nopqrstuvwxy".toList.findIdx? (· == c) with
    | some i, _ => some (60 * (i + 1))
    | none, some i => some (-60 * (i + 1))
    | none, none => none
  | _ => none

/-- The number of a word that counts. -/
def ordinal? (word : String) : Option Int :=
  ([("first", 1), ("third", 3), ("fourth", 4), ("fifth", 5), ("sixth", 6), ("seventh", 7),
    ("eighth", 8), ("ninth", 9), ("tenth", 10), ("eleventh", 11), ("twelfth", 12), ("next", 1),
    ("last", -1), ("this", 0)] : List (String × Int)).lookup word

/-- The zone of a word. -/
def zone? (word : String) : Option Int :=
  (zones.lookup word).or (letterZone? word)

/-- Reads what starts with a word. -/
def readWord? (t : WrittenTime) (word : String) (rest : List Char) :
    Option (WrittenTime × List Char) := do
  let shift (n : Int) : WrittenTime := { t with days := t.days + n, hasSteps := true }
  match word with
  | "now" | "today" => return (shift 0, rest)
  | "tomorrow" => return (shift 1, rest)
  | "yesterday" => return (shift (-1), rest)
  | "t" =>
    let clock := rest.dropWhile Char.isDigit
    if clock.length < rest.length then
      if clock.head?.any ":+-".toList.contains then return (t, rest) else none
    else if t.date?.isSome then none
    else return ({ t with offset? := some (-420) }, rest)
  | "hence" => return (t, rest)
  | "ago" =>
    return ({ t with months := -t.months, days := -t.days, seconds := -t.seconds }, rest)
  | word =>
    if let some n := ordinal? word then
      let (unit, rest) := takeWord (skipGaps rest)
      match nameIndex? weekdayNames unit with
      | some day => return ({ t with weekday? := some (day, n) }, rest)
      | none => return (← t.step? n unit, rest)
    else if let some offset := zone? word then
      if t.offset?.isSome then none else return ({ t with offset? := some offset }, rest)
    else match nameIndex? monthNames word, nameIndex? weekdayNames word with
    | some month, _ =>
      let (day, _, rest) ← takeNumber? (skipGaps rest)
      match takeNumber? (skipGaps rest) with
      | some (year, digits, after) =>
        if after.head? = some ':' || digits < 3 then
          return (← t.withDate? none (month + 1) day, rest)
        else return (← t.withDate? (some (fullYear year digits)) (month + 1) day, after)
      | none => return (← t.withDate? none (month + 1) day, rest)
    | none, some day => return ({ t with weekday? := some (day, 0) }, rest)
    | none, none => return (← t.step? 1 word, rest)

/-- Reads a written time. -/
def readWithin : Nat → WrittenTime → List Char → Option WrittenTime
  | 0, t, _ => some t
  | steps + 1, t, cs =>
    match skipGaps cs with
    | [] => some t
    | '@' :: cs => do
      let (sign, cs) : Int × List Char := match cs with
        | '-' :: cs => (-1, cs)
        | '+' :: cs => (1, cs)
        | cs => (1, cs)
      let (n, _, rest) ← takeNumber? cs
      let (nanos, rest) := takeFraction rest
      if (skipGaps rest).isEmpty then some { t with absolute? := some (sign * n, nanos) } else none
    | c :: cs =>
      if c = '+' ∨ c = '-' then do
        let sign : Int := if c = '-' then -1 else 1
        let (n, digits, rest) ← takeNumber? (skipGaps cs)
        if t.clock?.isSome && t.offset?.isNone && (digits = 4 || rest.head? = some ':') then
          let (offset, rest) ← takeOffset? sign (skipGaps cs)
          readWithin steps { t with offset? := some offset } rest
        else
          let (unit, after) := takeWord (skipGaps rest)
          readWithin steps (← t.step? (sign * n) unit) after
      else if c.isDigit then do
        let (n, digits, rest) ← takeNumber? (c :: cs)
        let (t, rest) ← t.readNumber? n digits rest
        readWithin steps t rest
      else do
        let (word, rest) := takeWord (c :: cs)
        if word = "" then none
        else
          let (t, rest) ← t.readWord? word rest
          readWithin steps t rest

/-- Whether a date is one of the calendar. -/
def isDay (year : Int) (month day : Nat) : Bool :=
  let n := Moment.dayNumber year month day
  Moment.ofDayNumber n == (year, month, day)

/-- The time that is meant, in seconds and nanoseconds, given the time now. -/
def resolve? (t : WrittenTime) (now : Int × Nat) : Option (Int × Nat) := do
  if let some exact := t.absolute? then return exact
  let offset := t.offset?.getD 0
  let here := Moment.ofSeconds (now.1 + offset * 60) now.2
  let (year, month, day) := match t.date? with
    | some (year?, month, day) => (year?.getD here.year, month, day)
    | none => (here.year, here.month, here.day)
  if !isDay year month day then none
  let keepsClock := t.hasSteps && t.date?.isNone && t.weekday?.isNone
  let (h, m, s, n) := match t.clock? with
    | some clock => clock
    | none => if keepsClock then (here.hour, here.minute, here.second, here.nanos) else (0, 0, 0, 0)
  if 24 ≤ h ∨ 60 ≤ m ∨ 61 ≤ s then none
  let weekShift : Int := match t.weekday?, t.date? with
    | some (wanted, ordinal), none =>
      let current := here.weekday
      ((wanted + 7 - current) % 7 : Nat) +
        7 * (ordinal - (if 0 < ordinal && current ≠ wanted then 1 else 0))
    | _, _ => 0
  let days := Moment.dayNumber year (month + t.months) (day + t.days + weekShift)
  return (days * 86400 + (h * 3600 + m * 60 + s : Nat) - offset * 60 + t.seconds, n)

/-- The time that a text tells, in seconds and nanoseconds, given the time now. -/
def read? (now : Int × Nat) (text : String) : Option (Int × Nat) := do
  let t ← readWithin (text.length + 1) {} (text.toList.map Char.toLower)
  t.resolve? now

end WrittenTime

/-- The time now, in seconds and nanoseconds. -/
def timeNow : Action (Int × Nat) := do
  let now : Nat ← ask .now
  return (clockStart + (now / 1000000 : Nat), now % 1000000 * 1000)

/-! ### Printing -/

/-- The patterns that options name. -/
def namedPattern? (o : String × String) : Option (Except String String) :=
  let iso (text : String) : Except String String :=
    match text with
    | "" | "date" => .ok "%Y-%m-%d"
    | "hours" => .ok "%Y-%m-%dT%H%:z"
    | "minutes" => .ok "%Y-%m-%dT%H:%M%:z"
    | "seconds" => .ok "%Y-%m-%dT%H:%M:%S%:z"
    | "ns" => .ok "%Y-%m-%dT%H:%M:%S,%N%:z"
    | text => .error text
  match o with
  | ("R", _) => some (.ok "%a, %d %b %Y %H:%M:%S %z")
  | ("I", text) => some (iso text)
  | ("rfc-3339", text) => some (match text with
    | "date" => .ok "%Y-%m-%d"
    | "seconds" => .ok "%Y-%m-%d %H:%M:%S%:z"
    | "ns" => .ok "%Y-%m-%d %H:%M:%S.%N%:z"
    | text => .error text)
  | _ => none

/-- Prints the time that options and operands ask for. -/
def printDate (c : Call) (w : Words) : Action Nat := do
  let named := w.options.filterMap namedPattern?
  let given := w.operands.filter (·.startsWith "+")
  match w.operands.filter fun t => !t.startsWith "+" with
  | text :: _ => c.fail 1 ("invalid date " ++ cited text)
  | [] =>
    if 1 < w.operands.length then c.misused 1 ("extra operand " ++ cited (w.operands.getD 1 ""))
    else if 1 < named.length + given.length then c.fail 1 "multiple output formats specified"
    else match named, given with
    | .error text :: _, _ => c.misused 1 ("invalid argument " ++ cited text)
    | .ok pattern :: _, _ => printBy pattern
    | [], text :: _ => printBy (String.ofList (text.toList.drop 1))
    | [], [] => printBy "%a %b %e %H:%M:%S %Z %Y"
where
  /-- Prints the time by a pattern. -/
  printBy (pattern : String) : Action Nat := do
    let now ← timeNow
    match w.get? "d", w.get? "r" with
    | some text, _ =>
      match WrittenTime.read? now text with
      | none => c.fail 1 ("invalid date " ++ cited text)
      | some (s, n) => c.finish ((Moment.ofSeconds s n).written pattern ++ "\n") 0
    | none, some path =>
      match ← ask (.facts path true) with
      | .error e =>
        c.complainOf path e
        return 1
      | .ok f =>
        let s := clockStart + f.modified / 1000000
        let n := (f.modified % 1000000).toNat * 1000
        c.finish ((Moment.ofSeconds s n).written pattern ++ "\n") 0
    | none, none => c.finish ((Moment.ofSeconds now.1 now.2).written pattern ++ "\n") 0

/-- Prints a time. -/
def date : Program := fun c =>
  c.withWords [⟨"d", ["date"], .required⟩, ⟨"r", ["reference"], .required⟩,
    ⟨"u", ["utc", "universal"], .plain⟩, ⟨"R", ["rfc-email", "rfc-2822"], .plain⟩,
    ⟨"I", ["iso-8601"], .possible⟩, ⟨"rfc-3339", ["rfc-3339"], .required⟩] (printDate c)

end LuaBundler.Utility
