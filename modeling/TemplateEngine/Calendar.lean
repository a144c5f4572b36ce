import TemplateEngine.Text.Split
import TemplateEngine.Text.Digits
/-!
The proleptic Gregorian calendar: dates as day numbers, moments as microseconds on one time line,
and broken-down times whose fields may run over.
-/
namespace TemplateEngine

structure Date where
  year : Int
  month : Int
  day : Int
deriving DecidableEq, Repr

structure TimeOfDay where
  hour : Int
  minute : Int
  second : Int
  micro : Int
deriving DecidableEq, Repr

/-- A date and a time of day; the offset from UTC is in seconds, and absent when the zone is
unknown. -/
structure Moment where
  date : Date
  time : TimeOfDay
  offset : Option Int
deriving DecidableEq, Repr

/-- A time broken into nine fields, of which only the first six count. -/
structure BrokenTime where
  year : Int
  month : Int
  day : Int
  hour : Int
  minute : Int
  second : Int
  weekday : Int
  yearday : Int
  daylight : Int
deriving DecidableEq, Repr

/-- Why a time has no place in the calendar. -/
inductive CalendarError
  | yearOutOfRange (year : Int)
  | monthOutOfRange
  | fieldTooGreat
  | fieldTooSmall
  | fieldTooLong
  | dateOutOfRange
  | secondsTooLong
  | yearTooLong
deriving DecidableEq, Repr

namespace Calendar

def minYear : Int := 1
def maxYear : Int := 9999

def isLeap (y : Int) : Bool := y % 4 == 0 && (y % 100 != 0 || y % 400 == 0)

/-- Days before the first of January of a year; year 1 begins at day 0. -/
def daysBeforeYear (y : Int) : Int :=
  let p := y - 1
  p * 365 + p / 4 - p / 100 + p / 400

/-- Days of a common year before each month. -/
def monthStarts : List Int := [0, 31, 59, 90, 120, 151, 181, 212, 243, 273, 304, 334]

/-- Days before a month of a year. -/
def daysBeforeMonth (y m : Int) : Int :=
  monthStarts.getD (m - 1).toNat 0 + (if isLeap y && 2 < m then 1 else 0)

/-- Days from the first day of year 1 to a date. -/
def dayNumber (d : Date) : Int :=
  daysBeforeYear d.year + daysBeforeMonth d.year d.month + (d.day - 1)

/-- The date of a day number: whole cycles of 400, 100, 4 and 1 years first, then the month. -/
def ofDayNumber (n : Int) : Date :=
  let n400 := n / 146097
  let n := n % 146097
  let n100 := min 3 (n / 36524)
  let n := n - n100 * 36524
  let n4 := n / 1461
  let n := n % 1461
  let n1 := min 3 (n / 365)
  let n := n - n1 * 365
  let year := n400 * 400 + n100 * 100 + n4 * 4 + n1 + 1
  let month : Int := (List.range 12).countP fun (i : Nat) => daysBeforeMonth year (i + 1) ≤ n
  ⟨year, month, n - daysBeforeMonth year month + 1⟩

def secondsPerDay : Int := 86400

/-- The day number of the first of January 1970. -/
def epoch : Int := 719162

def secondOfDay (t : TimeOfDay) : Int := (t.hour * 60 + t.minute) * 60 + t.second

/-- Seconds since 1970; a moment without an offset is read as UTC. -/
def seconds (m : Moment) : Int :=
  (dayNumber m.date - epoch) * secondsPerDay + secondOfDay m.time - m.offset.getD 0

def timeBefore (s t : TimeOfDay) : Bool :=
  secondOfDay s < secondOfDay t || (secondOfDay s == secondOfDay t && s.micro < t.micro)

/-- Whether a moment lies before another one on the time line. -/
def before (m n : Moment) : Bool :=
  seconds m < seconds n || (seconds m == seconds n && m.time.micro < n.time.micro)

/-- The UTC moment of a number of seconds since 1970, wherever its year lies. -/
def ofSeconds (s micro : Int) : Moment :=
  let r := s % secondsPerDay
  ⟨ofDayNumber (s / secondsPerDay + epoch), ⟨r / 3600, r / 60 % 60, r % 60, micro⟩, some 0⟩

def inRange (m : Moment) : Bool := minYear ≤ m.date.year && m.date.year ≤ maxYear

/-- The same point on the time line, told in UTC. -/
def toUtc (m : Moment) : Except CalendarError Moment :=
  let u := ofSeconds (seconds m) m.time.micro
  if inRange u then .ok u else .error .dateOutOfRange

/-- The bounds of signed machine words of 32 and of 64 bits. -/
def limit32 : Int := 0x80000000
def limit64 : Int := 0x8000000000000000

/-- Whether an integer fits the machine words that hold a calendar field. -/
def checkField (n : Int) : Except CalendarError Unit :=
  if n < -limit64 ∨ limit64 ≤ n then .error .fieldTooLong
  else if n < -limit32 then .error .fieldTooSmall
  else if limit32 ≤ n then .error .fieldTooGreat
  else .ok ()

/-- Seconds since 1970 of a broken-down time read as UTC; only year and month must be in range. -/
def timestamp (t : BrokenTime) : Except CalendarError Int := do
  checkField t.year
  checkField t.month
  if t.year < minYear ∨ maxYear < t.year then throw (.yearOutOfRange t.year)
  if t.month < 1 ∨ 12 < t.month then throw .monthOutOfRange
  let days := dayNumber ⟨t.year, t.month, 1⟩ - epoch + t.day - 1
  return ((days * 24 + t.hour) * 60 + t.minute) * 60 + t.second

/-- The UTC moment of a number of seconds since 1970. -/
def ofTimestamp (s : Int) : Except CalendarError Moment :=
  let m := ofSeconds s 0
  if s < -limit64 ∨ limit64 ≤ s then .error .secondsTooLong
  else if m.date.year - 1900 < -limit32 ∨ limit32 ≤ m.date.year - 1900 then .error .yearTooLong
  else if inRange m then .ok m
  else .error (.yearOutOfRange m.date.year)

def ofBroken (t : BrokenTime) : Except CalendarError Moment := timestamp t >>= ofTimestamp

def midnight (d : Date) : Moment := ⟨d, ⟨0, 0, 0, 0⟩, some 0⟩

end Calendar

private def fixed (width : Nat) (n : Int) : String := Text.padLeft '0' width (Text.writeInt n)

def Date.toText (d : Date) : String :=
  fixed 4 d.year ++ "-" ++ fixed 2 d.month ++ "-" ++ fixed 2 d.day

def TimeOfDay.toText (t : TimeOfDay) : String :=
  fixed 2 t.hour ++ ":" ++ fixed 2 t.minute ++ ":" ++ fixed 2 t.second ++
    (if t.micro = 0 then "" else "." ++ fixed 6 t.micro)

/-- An offset as `+hh:mm`, with seconds only when there are some. -/
def offsetText (offset : Int) : String :=
  let n : Int := offset.natAbs
  (if offset < 0 then "-" else "+") ++ fixed 2 (n / 3600) ++ ":" ++ fixed 2 (n / 60 % 60) ++
    (if n % 60 = 0 then "" else ":" ++ fixed 2 (n % 60))

def Moment.toText (m : Moment) : String :=
  m.date.toText ++ " " ++ m.time.toText ++
    (match m.offset with
     | some offset => offsetText offset
     | none => "")

/-- Fields separated by commas. -/
def fieldList (fields : List Int) : String := Text.join ", " (fields.map Text.writeInt)

end TemplateEngine
