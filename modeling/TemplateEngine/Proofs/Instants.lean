import TemplateEngine.Coercion
import TemplateEngine.Proofs.Gregorian
import TemplateEngine.Proofs.Optionals
/-!
Dates and times on one time line. Every value that stands for a time in the years 1 to 9999 has one
instant, a valid moment in UTC at the same microsecond, on whichever way it is found.
-/
namespace TemplateEngine

/-! ## The time line -/

structure Date.Valid (d : Date) : Prop extends d.Proper where
  year : Calendar.minYear ≤ d.year ∧ d.year ≤ Calendar.maxYear

structure TimeOfDay.Valid (t : TimeOfDay) : Prop where
  hour : 0 ≤ t.hour ∧ t.hour < 24
  minute : 0 ≤ t.minute ∧ t.minute < 60
  second : 0 ≤ t.second ∧ t.second < 60
  micro : 0 ≤ t.micro ∧ t.micro < 1000000

structure Moment.Valid (m : Moment) : Prop where
  date : m.date.Valid
  time : m.time.Valid

/-- Microseconds since 1970 began in UTC; a moment of an unknown zone is read as UTC. -/
def Moment.micros (m : Moment) : Int := Calendar.seconds m * 1000000 + m.time.micro

/-- Microseconds since 1970 of a broken-down time in UTC: those of the first of its month, and those of
all days, hours, minutes and seconds that it tells, however many. -/
def BrokenTime.micros (t : BrokenTime) : Int :=
  (Calendar.midnight ⟨t.year, t.month, 1⟩).micros +
    ((((t.day - 1) * 24 + t.hour) * 60 + t.minute) * 60 + t.second) * 1000000

/-- The first and the last microsecond of the calendar. -/
def Calendar.first : Int := (midnight ⟨minYear, 1, 1⟩).micros
def Calendar.last : Int := (midnight ⟨maxYear, 12, 31⟩).micros + secondsPerDay * 1000000 - 1

/-- A value that stands for a time, and its place on the time line. -/
inductive Value.StandsAt : Value → Int → Prop
  | date {d : Date} (h : d.Valid) : StandsAt (.date d) (Calendar.midnight d).micros
  | moment {m : Moment} (h : m.Valid) : StandsAt (.moment m) m.micros
  | instant {m : Moment} (h : m.Valid) : StandsAt (.instant m) m.micros
  | brokenTime {t : BrokenTime} (month : 1 ≤ t.month ∧ t.month ≤ 12)
      (year : Calendar.minYear ≤ t.year ∧ t.year ≤ Calendar.maxYear) :
      StandsAt (.brokenTime t) t.micros

namespace Calendar

/-! ## Moments of the time line -/

/-- The moment of a number of seconds is at that number of seconds. -/
theorem seconds_ofSeconds (s micro : Int) : seconds (ofSeconds s micro) = s := by
  simp only [seconds, ofSeconds, dayNumber_ofDayNumber, secondOfDay, secondsPerDay, Option.getD_some]
  omega

theorem micros_ofSeconds (s micro : Int) : (ofSeconds s micro).micros = s * 1000000 + micro := by
  rw [Moment.micros, seconds_ofSeconds]
  rfl

theorem time_ofSeconds (s : Int) {micro : Int} (h : 0 ≤ micro ∧ micro < 1000000) :
    (ofSeconds s micro).time.Valid := by
  constructor <;> simp only [ofSeconds, secondsPerDay] <;> omega

/-- A day lies in the years 1 to 9999 exactly if it is neither before the first nor after the last of
their days. -/
theorem year_ofDayNumber_iff (n : Int) :
    (minYear ≤ (ofDayNumber n).year ∧ (ofDayNumber n).year ≤ maxYear) ↔ 0 ≤ n ∧ n < 3652059 := by
  obtain ⟨y, low, high, date⟩ := ofDayNumber_eq n
  rw [date, ofYearDay]
  simp only [daysBeforeYear, minYear, maxYear] at *
  omega

theorem first_eq : first = -62135596800000000 := rfl

theorem last_eq : last = 253402300799999999 := rfl

/-- The moment at a number of microseconds since 1970. -/
def momentAt (x : Int) : Moment := ofSeconds (x / 1000000) (x % 1000000)

theorem micros_momentAt (x : Int) : (momentAt x).micros = x := by
  rw [momentAt, micros_ofSeconds]
  omega

theorem inRange_momentAt {x : Int} (range : first ≤ x ∧ x ≤ last) : inRange (momentAt x) = true := by
  rw [first_eq, last_eq] at range
  have day : 0 ≤ x / 1000000 / secondsPerDay + epoch ∧ x / 1000000 / secondsPerDay + epoch < 3652059 := by
    simp only [secondsPerDay, epoch]
    omega
  simp only [inRange, Bool.and_eq_true, decide_eq_true_eq]
  exact (year_ofDayNumber_iff _).mpr day

theorem valid_momentAt {x : Int} (range : first ≤ x ∧ x ≤ last) : (momentAt x).Valid where
  date := {
    toProper := proper_ofDayNumber _
    year := by simpa only [inRange, Bool.and_eq_true, decide_eq_true_eq] using inRange_momentAt range }
  time := time_ofSeconds _ (by omega)

theorem momentAt_of_micro (s : Int) {micro : Int} (h : 0 ≤ micro ∧ micro < 1000000) :
    momentAt (s * 1000000 + micro) = ofSeconds s micro := by
  rw [momentAt]
  congr 1 <;> omega

/-- A moment in UTC is the one at its own number of seconds. -/
theorem ofSeconds_seconds {u : Moment} (valid : u.Valid) (utc : u.offset = some 0) :
    ofSeconds (seconds u) u.time.micro = u := by
  obtain ⟨date, ⟨hour, minute, second, micro⟩, offset⟩ := u
  obtain rfl : offset = some 0 := utc
  obtain ⟨hours, minutes, seconds_, -⟩ := valid.time
  dsimp only at hours minutes seconds_
  have place : seconds ⟨date, ⟨hour, minute, second, micro⟩, some 0⟩ =
      (dayNumber date - epoch) * 86400 + ((hour * 60 + minute) * 60 + second) := by
    simp [seconds, secondsPerDay, secondOfDay]
  have day : ((dayNumber date - epoch) * 86400 + ((hour * 60 + minute) * 60 + second)) / 86400 + epoch =
      dayNumber date := by omega
  have left : ((dayNumber date - epoch) * 86400 + ((hour * 60 + minute) * 60 + second)) % 86400 =
      (hour * 60 + minute) * 60 + second := by omega
  rw [place, ofSeconds, secondsPerDay, day, left, ofDayNumber_dayNumber valid.date.toProper]
  congr 2 <;> omega

/-- A valid moment in UTC is the one at its own place. -/
theorem momentAt_micros {u : Moment} (valid : u.Valid) (utc : u.offset = some 0) :
    momentAt u.micros = u := by
  rw [Moment.micros, momentAt_of_micro _ valid.time.micro, ofSeconds_seconds valid utc]

theorem valid_midnight {d : Date} (h : d.Valid) : (midnight d).Valid :=
  have clock : (⟨0, 0, 0, 0⟩ : TimeOfDay).Valid := ⟨by decide, by decide, by decide, by decide⟩
  ⟨h, clock⟩

/-! ## Ways to the instant -/

/-- A moment is told in UTC by the moment at its place. -/
theorem toUtc_eq {m : Moment} (micro : 0 ≤ m.time.micro ∧ m.time.micro < 1000000)
    (range : first ≤ m.micros ∧ m.micros ≤ last) : toUtc m = .ok (momentAt m.micros) := by
  have there := inRange_momentAt range
  rw [Moment.micros, momentAt_of_micro _ micro] at *
  rw [toUtc, there]
  rfl

theorem checkField_ok {n : Int} (low : 0 ≤ n) (high : n ≤ 9999) : checkField n = .ok () := by
  have short : limit32 = 2147483648 := rfl
  have long : limit64 = 9223372036854775808 := rfl
  rw [checkField, if_neg (by omega), if_neg (by omega), if_neg (by omega)]

/-- The seconds of a broken-down time with a month and a year of the calendar. -/
theorem timestamp_eq {t : BrokenTime} (month : 1 ≤ t.month ∧ t.month ≤ 12)
    (year : minYear ≤ t.year ∧ t.year ≤ maxYear) : timestamp t = .ok (t.micros / 1000000) := by
  have bounds : minYear = 1 ∧ maxYear = 9999 := ⟨rfl, rfl⟩
  have place : t.micros = ((((dayNumber ⟨t.year, t.month, 1⟩ - epoch + t.day - 1) * 24 + t.hour) * 60 +
      t.minute) * 60 + t.second) * 1000000 := by
    simp only [BrokenTime.micros, Moment.micros, midnight, seconds, secondOfDay, secondsPerDay,
      Option.getD_some]
    omega
  rw [place, Int.mul_ediv_cancel _ (by decide), timestamp, checkField_ok (by omega) (by omega),
    checkField_ok (by omega) (by omega)]
  change (if _ then _ else _) = _
  rw [if_neg (by omega)]
  change (if _ then _ else _) = _
  rw [if_neg (by omega)]
  rfl

theorem ofBroken_eq {t : BrokenTime} (month : 1 ≤ t.month ∧ t.month ≤ 12)
    (year : minYear ≤ t.year ∧ t.year ≤ maxYear) (range : first ≤ t.micros ∧ t.micros ≤ last) :
    ofBroken t = .ok (momentAt t.micros) := by
  have whole : t.micros % 1000000 = 0 := by
    simp only [BrokenTime.micros, Moment.micros, midnight]
    omega
  have there := inRange_momentAt range
  rw [momentAt, whole] at *
  have bounds : limit32 = 2147483648 ∧ limit64 = 9223372036854775808 ∧ minYear = 1 ∧ maxYear = 9999 :=
    ⟨rfl, rfl, rfl, rfl⟩
  have calendar : minYear ≤ (ofSeconds (t.micros / 1000000) 0).date.year ∧
      (ofSeconds (t.micros / 1000000) 0).date.year ≤ maxYear := by
    simpa only [inRange, Bool.and_eq_true, decide_eq_true_eq] using there
  rw [first_eq, last_eq] at range
  rw [ofBroken, timestamp_eq month year]
  change ofTimestamp _ = _
  rw [ofTimestamp, if_neg (by omega), if_neg (by omega), if_pos there]

end Calendar

open Calendar

variable {v : Value} {x : Int} {w : World}

theorem unwrap_of_standsAt (h : v.StandsAt x) (w : World) : w.unwrap v = v := by
  cases h <;> exact World.unwrap_of_content w _ rfl

/-- The instant of a value is the moment at its place. -/
theorem outcome_toInstant (h : v.StandsAt x) (range : first ≤ x ∧ x ≤ last) (w : World) :
    outcome (toInstant v) w = (.ok (some (.instant (momentAt x))), w) := by
  have told : ∀ {m : Moment}, m.Valid → first ≤ m.micros ∧ m.micros ≤ last →
      outcome (do return some (Value.instant (← liftCalendar (toUtc m)))) w =
        (.ok (some (.instant (momentAt m.micros))), w) := by
    intro m valid range
    rw [toUtc_eq valid.time.micro range]
    rfl
  rw [toInstant, outcome_get_bind, unwrap_of_standsAt h]
  cases h with
  | date valid =>
    rw [momentAt_micros (valid_midnight valid) rfl]
    rfl
  | moment valid => exact told valid range
  | instant valid => exact told valid range
  | brokenTime month year =>
    dsimp only
    rw [ofBroken_eq month year range]
    rfl

theorem standsAt_momentAt (range : first ≤ x ∧ x ≤ last) : (Value.moment (momentAt x)).StandsAt x := by
  have there := Value.StandsAt.moment (valid_momentAt range)
  rwa [micros_momentAt] at there

/-- The moment of a value is at its place. -/
theorem outcome_toDate (h : v.StandsAt x) (range : first ≤ x ∧ x ≤ last) (w : World) :
    ∃ d, outcome (toDate v) w = (.ok (some d), w) ∧ d.StandsAt x := by
  rw [toDate, outcome_get_bind, unwrap_of_standsAt h]
  cases h with
  | date valid => exact ⟨_, rfl, .moment (valid_midnight valid)⟩
  | moment valid => exact ⟨_, rfl, .moment valid⟩
  | instant valid => exact ⟨_, rfl, .instant valid⟩
  | brokenTime month year =>
    dsimp only
    rw [ofBroken_eq month year range]
    exact ⟨_, rfl, standsAt_momentAt range⟩

end TemplateEngine
