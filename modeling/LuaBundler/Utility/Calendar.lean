import LuaBundler.Utility.Basic

/-!
# Calendar

Times are counted in seconds from the start of the year 1970. A moment is a time as calendars and
clocks tell it, in the zone of universal time; `Moment.ofSeconds` and `Moment.seconds` go from one to
the other. A pattern tells how a moment is written.

Years are counted from the first of March on, so that the odd day is the last one of a year.
-/

namespace LuaBundler.Utility

open LuaBundler.Text

/-- The time at which the clock of a system starts, in seconds: the first day of 2026. -/
def clockStart : Int := 1767225600

/-- A time as calendars and clocks tell it. -/
structure Moment where
  year : Int
  month : Nat := 1
  day : Nat := 1
  hour : Nat := 0
  minute : Nat := 0
  second : Nat := 0
  nanos : Nat := 0
  deriving Repr, DecidableEq

namespace Moment

/-- The number of a day, counted from the first one of 1970; days and months beyond the end of their
month or year are counted on. -/
def dayNumber (year : Int) (month : Int) (day : Int) : Int :=
  let year := year + (month - 1) / 12
  let month := (month - 1) % 12 + 1
  let y := if month ≤ 2 then year - 1 else year
  let era := y / 400
  let yearOfEra := y % 400
  let dayOfYear := (153 * (if 2 < month then month - 3 else month + 9) + 2) / 5 + day - 1
  era * 146097 + yearOfEra * 365 + yearOfEra / 4 - yearOfEra / 100 + dayOfYear - 719468

/-- The year, month and day of a day's number. -/
def ofDayNumber (n : Int) : Int × Nat × Nat :=
  let z := n + 719468
  let era := z / 146097
  let d := z % 146097
  let y := (d - d / 1460 + d / 36524 - d / 146096) / 365
  let dayOfYear := d - (365 * y + y / 4 - y / 100)
  let m := (5 * dayOfYear + 2) / 153
  let day := dayOfYear - (153 * m + 2) / 5 + 1
  let month := if m < 10 then m + 3 else m - 9
  (y + era * 400 + (if month ≤ 2 then 1 else 0), month.toNat, day.toNat)

/-- The moment of a time. -/
def ofSeconds (time : Int) (nanos : Nat := 0) : Moment :=
  let (year, month, day) := ofDayNumber (time / 86400)
  let s := (time % 86400).toNat
  { year, month, day, hour := s / 3600, minute := s / 60 % 60, second := s % 60, nanos }

/-- The number of a moment's day. -/
def days (m : Moment) : Int :=
  dayNumber m.year m.month m.day

/-- The time of a moment. -/
def seconds (m : Moment) : Int :=
  m.days * 86400 + (m.hour * 3600 + m.minute * 60 + m.second : Nat)

/-- The day of the week, counted from Sunday on. -/
def weekday (m : Moment) : Nat :=
  ((m.days + 4) % 7).toNat

/-- The day of the year, counted from zero. -/
def dayOfYear (m : Moment) : Nat :=
  (m.days - dayNumber m.year 1 1).toNat

/-- The year and week that a day belongs to, if weeks start on Monday and belong to the year that
their Thursday is in. -/
def yearAndWeek (m : Moment) : Int × Nat :=
  let thursday := m.days + 3 - ((m.weekday + 6) % 7 : Nat)
  let (year, _, _) := ofDayNumber thursday
  (year, (thursday - dayNumber year 1 1).toNat / 7 + 1)

end Moment

/-- The names of the days of the week. -/
def weekdayNames : List String :=
  ["Sunday", "Monday", "Tuesday", "Wednesday", "Thursday", "Friday", "Saturday"]

/-- The names of the months. -/
def monthNames : List String := ["January", "February", "March", "April", "May", "June", "July",
  "August", "September", "October", "November", "December"]

/-- The first three letters of a name. -/
def shortName (name : String) : String :=
  String.ofList (name.toList.take 3)

/-! ### Patterns -/

/-- How a directive of a pattern is written. -/
structure FieldStyle where
  flags : List Char
  width? : Option Nat
  colons : Nat

namespace FieldStyle

/-- What fills a field up, if flags do not say otherwise. -/
def filler (s : FieldStyle) (usual : Char) : Option Char :=
  match (s.flags.filter ['-', '_', '0', '+'].contains).getLast? with
  | some '-' => none
  | some '_' => some ' '
  | some _ => some '0'
  | none => some usual

/-- A number, filled up to its usual width or the one that is told. -/
def number (s : FieldStyle) (usual : Char) (width : Nat) (n : Int) : String :=
  let ds := decimal n.natAbs
  let sign := if n < 0 then "-" else ""
  match s.filler usual with
  | none => sign ++ ds
  | some c =>
    let fill := String.ofList (List.replicate (s.width?.getD width - ds.length - sign.length) c)
    if c = ' ' then fill ++ sign ++ ds else sign ++ fill ++ ds

/-- A text, filled up to the width that is told. -/
def text (s : FieldStyle) (t : String) : String :=
  let t := if s.flags.contains '^' then t.map Char.toUpper else t
  match s.filler ' ' with
  | none => t
  | some c => String.ofList (List.replicate (s.width?.getD 0 - t.length) c) ++ t

end FieldStyle

/-- The directives that stand for several others. -/
def composedPatterns : List (Char × String) := [('c', "%a %b %e %H:%M:%S %Y"),
  ('D', "%m/%d/%y"), ('F', "%Y-%m-%d"), ('r', "%I:%M:%S %p"), ('R', "%H:%M"), ('T', "%H:%M:%S"),
  ('x', "%m/%d/%y"), ('X', "%H:%M:%S")]

/-- The offset of universal time with so many colons. -/
def zoneOffset : Nat → String
  | 0 => "+0000"
  | 1 => "+00:00"
  | 2 => "+00:00:00"
  | _ => "+00"

/-- A moment as a simple directive writes it. -/
def simpleDirective? (m : Moment) (s : FieldStyle) (letter : Char) : Option String :=
  let hour12 : Int := if m.hour % 12 = 0 then 12 else m.hour % 12
  let dayName := weekdayNames.getD m.weekday ""
  let monthName := monthNames.getD (m.month - 1) ""
  let swapped (t : String) (f : Char → Char) : String :=
    if s.flags.contains '#' then t.map f else t
  match letter with
  | '%' => some "%"
  | 'n' => some "\n"
  | 't' => some "\t"
  | 'a' => some (s.text (swapped (shortName dayName) Char.toUpper))
  | 'A' => some (s.text (swapped dayName Char.toUpper))
  | 'b' | 'h' => some (s.text (swapped (shortName monthName) Char.toUpper))
  | 'B' => some (s.text (swapped monthName Char.toUpper))
  | 'C' => some (s.number '0' 2 (m.year / 100))
  | 'd' => some (s.number '0' 2 m.day)
  | 'e' => some (s.number ' ' 2 m.day)
  | 'g' => some (s.number '0' 2 (m.yearAndWeek.1 % 100))
  | 'G' => some (s.number '0' 4 m.yearAndWeek.1)
  | 'H' => some (s.number '0' 2 m.hour)
  | 'I' => some (s.number '0' 2 hour12)
  | 'j' => some (s.number '0' 3 (m.dayOfYear + 1))
  | 'k' => some (s.number ' ' 2 m.hour)
  | 'l' => some (s.number ' ' 2 hour12)
  | 'm' => some (s.number '0' 2 m.month)
  | 'M' => some (s.number '0' 2 m.minute)
  | 'N' =>
    let ds := (FieldStyle.mk [] none 0).number '0' 9 m.nanos
    some (String.ofList (ds.toList.take (s.width?.getD 9)))
  | 'p' => some (s.text (swapped (if m.hour < 12 then "AM" else "PM") Char.toLower))
  | 'P' => some (s.text (if m.hour < 12 then "am" else "pm"))
  | 'q' => some (s.number '0' 1 ((m.month - 1) / 3 + 1 : Nat))
  | 's' => some (s.number '0' 1 m.seconds)
  | 'S' => some (s.number '0' 2 m.second)
  | 'u' => some (s.number '0' 1 (if m.weekday = 0 then 7 else m.weekday : Nat))
  | 'U' => some (s.number '0' 2 ((m.dayOfYear + 7 - m.weekday) / 7 : Nat))
  | 'V' => some (s.number '0' 2 m.yearAndWeek.2)
  | 'w' => some (s.number '0' 1 m.weekday)
  | 'W' => some (s.number '0' 2 ((m.dayOfYear + 7 - (m.weekday + 6) % 7) / 7 : Nat))
  | 'y' => some (s.number '0' 2 (m.year % 100))
  | 'Y' => some (s.number '0' 4 m.year)
  | 'z' => some (zoneOffset s.colons)
  | 'Z' => some (s.text (swapped "UTC" Char.toLower))
  | _ => none

/-- A moment as a pattern writes it. -/
def Moment.format (m : Moment) : Nat → List Char → String
  | 0, _ | _ + 1, [] => ""
  | steps + 1, '%' :: cs =>
    let flags := cs.takeWhile ['-', '_', '0', '^', '#', '+'].contains
    let rest := cs.drop flags.length
    let ds := rest.takeWhile Char.isDigit
    let rest := rest.drop ds.length
    let rest := match rest with
      | 'E' :: c :: rest => if c.isAlpha then c :: rest else 'E' :: c :: rest
      | 'O' :: c :: rest => if c.isAlpha then c :: rest else 'O' :: c :: rest
      | rest => rest
    let colons := (rest.takeWhile (· = ':')).length
    let width? := natural? (String.ofList ds)
    let style : FieldStyle := ⟨flags, width?, colons⟩
    match rest.drop colons with
    | [] => "%" ++ String.ofList cs
    | letter :: others =>
      let written := match composedPatterns.lookup letter with
        | some inner => style.text (m.format steps inner.toList)
        | none => (simpleDirective? m style letter).getD
            ("%" ++ String.ofList (cs.take (cs.length - others.length)))
      written ++ m.format steps others
  | steps + 1, c :: cs => String.singleton c ++ m.format steps cs

/-- A moment as a pattern writes it. -/
def Moment.written (m : Moment) (pattern : String) : String :=
  m.format (pattern.length + 20) pattern.toList

end LuaBundler.Utility
