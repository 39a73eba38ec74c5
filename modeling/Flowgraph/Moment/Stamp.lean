import Flowgraph.Json.Spelled
import Flowgraph.Moment
import Flowgraph.Text.Integer

/-!
# Stamps

A stamp is the text of a moment. The day is written with a month, as in `2026-01-15`, or with a week
and a day of the week, as in `2026-W03-4`; the hyphens may be left out, and so may the day of the
week. Any character may separate the day from the time, which may be left out. The time is written
as in `12:00:00.5`, or without the colons; parts at its end may be left out. Behind the time may
stand how far the clock is ahead of universal time.

## Main definitions

* `Stamp`: a moment, and how far its clock is ahead.
* `StampError`: why a text is no stamp.
* `Stamp.read`, `Stamp.write`: the stamp of a text, and the text of a stamp.
-/

namespace Flowgraph

/-- A moment, and by how many microseconds its clock is ahead of universal time, if that is told. -/
structure Stamp where
  /-- The moment, as the clock shows it. -/
  moment : Moment
  /-- How far the clock is ahead. -/
  ahead : Option Int
deriving DecidableEq, Repr, Inhabited

/-- Why a text is no stamp. -/
inductive StampError where
  /-- It is no text. -/
  | notText
  /-- It does not have the form of a stamp. -/
  | malformed (text : String)
  /-- The clock is a day or more ahead or behind, by so many microseconds. -/
  | badAhead (micros : Int)
  /-- There is no such year. -/
  | badYear (year : Nat)
  /-- There is no such month. -/
  | badMonth
  /-- The month has no such day. -/
  | badDay
  /-- There is no such hour. -/
  | badHour
  /-- There is no such minute. -/
  | badMinute
  /-- There is no such second. -/
  | badSecond
  /-- The moment lies behind the last year. -/
  | behindYears
deriving DecidableEq, Repr

namespace StampError

/-- The name of the kind of a reason. -/
def kind : StampError → String
  | notText => "TypeError"
  | behindYears => "OverflowError"
  | _ => "ValueError"

/-- The parts of a distance in time that are not zero. -/
def distance (micros : Int) : String :=
  let part (name : String) (n : Int) : List String := if n = 0 then [] else [s!"{name}={n}"]
  ", ".intercalate (part "days" (micros.fdiv Moment.day)
    ++ part "seconds" ((micros.fmod Moment.day).fdiv Moment.second)
    ++ part "microseconds" (micros.fmod Moment.second))

/-- The wording of a reason. -/
def message : StampError → String
  | notText => "fromisoformat: argument must be str"
  | malformed text => "Invalid isoformat string: " ++ String.ofList (Json.spellText text)
  | badAhead micros =>
    "offset must be a timedelta strictly between -timedelta(hours=24) and timedelta(hours=24), "
      ++ s!"not datetime.timedelta({distance micros})."
  | badYear year => s!"year {year} is out of range"
  | badMonth => "month must be in 1..12"
  | badDay => "day is out of range for month"
  | badHour => "hour must be in 0..23"
  | badMinute => "minute must be in 0..59"
  | badSecond => "second must be in 0..59"
  | behindYears => "date value out of range"

end StampError

namespace Stamp

/-! ### Digits -/

/-- Whether a character is an ASCII digit. -/
def isDigit (c : Char) : Bool :=
  '0' ≤ c && c ≤ '9'

/-- A number of exactly so many ASCII digits, and what stands behind it. -/
def digits? (width : Nat) (cs : List Char) : Option (Nat × List Char) :=
  let digits := cs.take width
  if digits.length = width ∧ digits.all isDigit = true then
    some (Text.digitsValue digits, cs.drop width)
  else none

/-- Whether nothing is left of a text; a NUL ends it. -/
def isEnd (cs : List Char) : Bool :=
  cs.head?.all (· == '\x00')

/-! ### Days -/

/-- A day by its number in its month, months and days counted from one. -/
structure Day where
  /-- The year. -/
  year : Nat
  /-- The month. -/
  month : Nat
  /-- The day of the month. -/
  day : Nat
deriving DecidableEq, Repr

/-- The days before a year, from the beginning of the first one. -/
def daysBefore (year : Nat) : Nat :=
  let passed := year - 1
  passed * 365 + passed / 4 - passed / 100 + passed / 400

/-- The day of the week on which a year begins, counted from Monday. -/
def firstWeekday (year : Nat) : Nat :=
  daysBefore year % 7

/-- The days of a year. -/
def yearLength (year : Nat) : Nat :=
  if Moment.isLeap year then 366 else 365

/-- The day that has so many days before it among the months from one on. -/
def dayAmong (year : Nat) (passed : Nat) : List Nat → Day
  | [] => ⟨year, 12, passed + 1⟩
  | month :: rest =>
    let length := Moment.daysInMonth year month
    if passed < length then ⟨year, month + 1, passed + 1⟩
    else dayAmong year (passed - length) rest

/-- The day of a year with so many days before it: a negative number leads into the year before,
and a large one into the year behind. -/
def dayOfYear (year : Nat) (passed : Int) : Day :=
  let months := List.range 12
  if passed < 0 then dayAmong (year - 1) (yearLength (year - 1) - (-passed).toNat) months
  else if passed < yearLength year then dayAmong year passed.toNat months
  else dayAmong (year + 1) (passed.toNat - yearLength year) months

/-- Whether a year has a fifty-third week: it begins on a Thursday, or on a Wednesday and has a
leap day. -/
def hasLongCount (year : Nat) : Bool :=
  firstWeekday year == 3 || (firstWeekday year == 2 && Moment.isLeap year)

/-- The day of a week, weeks and days of the week counted from one. The first week of a year is the
one with its first Thursday. The weeks before the first year lie in no month. -/
def dayOfWeek? (year week weekday : Nat) : Option Day :=
  let weeks := if hasLongCount year then 53 else 52
  if 1 ≤ week ∧ week ≤ weeks ∧ 1 ≤ weekday ∧ weekday ≤ 7 then
    let first : Int := firstWeekday year
    let monday : Int := if first ≤ 3 then -first else 7 - first
    some (if year = 0 then ⟨1, 0, weekday⟩
      else dayOfYear year (monday + (week - 1) * 7 + (weekday - 1)))
  else none

/-- A text behind the hyphen that must stand there if there was one before. -/
def behindHyphen? (hyphened : Bool) (cs : List Char) : Option (List Char) :=
  if !hyphened then some cs
  else if cs.head? = some '-' then some (cs.drop 1)
  else none

/-- The day that a text writes, whether or not the rest of the text is used. -/
def day? (cs : List Char) : Option Day := do
  let (year, afterYear) ← digits? 4 cs
  let hyphened := afterYear.head? == some '-'
  let rest := if hyphened then afterYear.drop 1 else afterYear
  if rest.head? = some 'W' then
    let (week, afterWeek) ← digits? 2 (rest.drop 1)
    if afterWeek.isEmpty then dayOfWeek? year week 1
    else
      let (weekday, _) ← digits? 1 (← behindHyphen? hyphened afterWeek)
      dayOfWeek? year week weekday
  else
    let (month, afterMonth) ← digits? 2 rest
    let (day, _) ← digits? 2 (← behindHyphen? hyphened afterMonth)
    pure ⟨year, month, day⟩

/-- How many characters write the day of a stamp, before anything is checked. Behind a week
without hyphens the digits of the time come in pairs, so that an odd number of digits begins with
the day of the week; behind a week with hyphens, a hyphen and two more characters of which the
second is a digit begin a time. -/
def dayWidth (cs : List Char) : Nat :=
  let at? (i : Nat) : Option Char := cs[i]?
  if cs.length = 7 then 7
  else if at? 4 = some '-' then
    if at? 5 = some 'W' then
      if at? 8 = some '-' ∧ ¬(at? 10).any isDigit then 10 else 8
    else 10
  else if at? 4 = some 'W' then
    let run := ((cs.drop 7).takeWhile isDigit).length
    if run < 2 then 7 + run else if run % 2 = 1 then 7 else 8
  else 8

/-! ### Times -/

/-- A time of the day, before anything is checked. -/
structure Clock where
  /-- The hour. -/
  hour : Nat := 0
  /-- The minute. -/
  minute : Nat := 0
  /-- The second. -/
  second : Nat := 0
  /-- The microsecond. -/
  micros : Nat := 0
deriving DecidableEq, Repr

/-- The microseconds since the beginning of the day. -/
def Clock.total (c : Clock) : Nat :=
  (c.hour * 3600 + c.minute * 60 + c.second) * Moment.second + c.micros

/-- The time with a fraction, of which six digits count; whether nothing is left behind it. -/
def withFraction? (c : Clock) (cs : List Char) : Option (Clock × Bool) := do
  let width := min 6 cs.length
  let (value, rest) ← digits? width cs
  pure ({ c with micros := value * Nat.pow 10 (6 - width) }, isEnd (rest.dropWhile isDigit))

/-- What stands behind a part of a time. -/
inductive Follow where
  /-- The time is at its end; whether nothing is left. -/
  | stop (isWhole : Bool)
  /-- A fraction. -/
  | fraction (rest : List Char)
  /-- Another part, or a fraction behind the last part. -/
  | part (rest : List Char)

/-- What stands behind a part of a time, with colons between the parts or without. A single byte
behind the time is left over. -/
def follow? (coloned : Bool) : List Char → Option Follow
  | [] => some (.stop true)
  | [c] => if c.utf8Size = 1 then some (.stop (c == '\x00')) else none
  | c :: rest =>
    if coloned ∧ c = ':' then some (.part rest)
    else if c = '.' ∨ c = ',' then some (.fraction rest)
    else if coloned then none
    else some (.part (c :: rest))

/-- The time that a text writes, and whether nothing is left behind it. -/
def clock? (cs : List Char) : Option (Clock × Bool) := do
  let (hour, afterHour) ← digits? 2 cs
  let coloned := afterHour.head? == some ':'
  match ← follow? coloned afterHour with
  | .stop isWhole => pure ({ hour := hour }, isWhole)
  | .fraction rest => withFraction? { hour := hour } rest
  | .part rest =>
    let (minute, afterMinute) ← digits? 2 rest
    match ← follow? coloned afterMinute with
    | .stop isWhole => pure ({ hour := hour, minute := minute }, isWhole)
    | .fraction rest => withFraction? { hour := hour, minute := minute } rest
    | .part rest =>
      let (second, afterSecond) ← digits? 2 rest
      let c : Clock := { hour := hour, minute := minute, second := second }
      match ← follow? coloned afterSecond with
      | .stop isWhole => pure (c, isWhole)
      | .fraction rest => withFraction? c rest
      | .part rest => withFraction? c rest

/-- How far a clock is ahead, as a text behind the time says. -/
def ahead? : List Char → Option Int
  | [] => none
  | sign :: rest =>
    if sign = 'Z' then if isEnd rest then some 0 else none
    else
      match clock? rest with
      | some (c, true) =>
        let seconds := c.total / Moment.second
        let micros : Int := if seconds = 0 then 0 else c.total
        some (if sign = '-' then -micros else micros)
      | _ => none

/-- A time, and how far the clock is ahead if that is told. What is left over behind the time does
not matter where it is told. -/
def time? (cs : List Char) : Option (Clock × Option Int) := do
  let isSign (c : Char) : Bool := c == '+' || c == '-' || c == 'Z'
  let rest := cs.dropWhile (!isSign ·)
  let (c, isWhole) ← clock? (cs.takeWhile (!isSign ·))
  if rest.isEmpty then if isWhole then some (c, none) else none
  else
    let micros ← ahead? rest
    pure (c, some micros)

/-! ### Stamps -/

/-- What a text says behind the day: a separator and a time, or nothing. -/
def timeBehindDay? : List Char → Option (Clock × Option Int)
  | [] => some ({}, none)
  | _ :: time => time? time

/-- The day and the time that a text writes, before anything is checked. -/
def parts? (cs : List Char) : Option (Day × Clock × Option Int) := do
  if cs.length < 7 then none
  else
    let width := dayWidth cs
    let day ← day? (cs.take width)
    let (c, ahead) ← timeBehindDay? (cs.drop width)
    pure (day, c, ahead)

/-- The last year. -/
def lastYear : Nat := 9999

/-- The stamp of a text. -/
def read (text : String) : Except StampError Stamp :=
  match parts? (Text.characters text) with
  | none => .error (.malformed text)
  | some (d, c, ahead) =>
    if ahead.any fun micros => decide (Moment.day ≤ micros.natAbs) then
      .error (.badAhead (ahead.getD 0))
    else if d.year = 0 ∨ lastYear < d.year then .error (.badYear d.year)
    else if d.month = 0 ∨ 12 < d.month then .error .badMonth
    else if d.day = 0 ∨ Moment.daysInMonth d.year (d.month - 1) < d.day then .error .badDay
    else if 23 < c.hour then .error .badHour
    else if 59 < c.minute then .error .badMinute
    else if 59 < c.second then .error .badSecond
    else .ok ⟨⟨d.year * 12 + (d.month - 1), (d.day - 1) * Moment.day + c.total⟩, ahead⟩

/-- The stamp that a value is the text of. -/
def ofJson : Json → Except StampError Stamp
  | .str text => read text
  | _ => .error .notText

/-- How far a clock is ahead as a text, in hours and minutes and whatever else there is. -/
def writeAhead (micros : Int) : String :=
  let rest := micros.natAbs % Moment.second
  let seconds := micros.natAbs / Moment.second
  (if micros < 0 then "-" else "+") ++ Moment.padded 2 (seconds / 3600) ++ ":"
    ++ Moment.padded 2 (seconds / 60 % 60)
    ++ (if seconds % 60 = 0 ∧ rest = 0 then "" else ":" ++ Moment.padded 2 (seconds % 60))
    ++ (if rest = 0 then "" else "." ++ Moment.padded 6 rest)

/-- The text of a stamp. -/
def write (s : Stamp) : String :=
  s.moment.write ++ (s.ahead.map writeAhead).getD ""

/-- The stamp of a moment, whose clock is not told. -/
def ofMoment (m : Moment) : Stamp :=
  ⟨m, none⟩

/-- The stamp one second later, if that is not behind the last year. -/
def addSecond (s : Stamp) : Except StampError Stamp :=
  let later := s.moment.addSecond
  if later.month / 12 ≤ lastYear then .ok { s with moment := later } else .error .behindYears

/-- The beginning of the month of a stamp. -/
def monthStart (s : Stamp) : Stamp :=
  { s with moment := s.moment.monthStart }

end Stamp
end Flowgraph
