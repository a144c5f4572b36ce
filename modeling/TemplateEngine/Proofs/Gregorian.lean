import Mathlib.Data.List.Basic
import Mathlib.Data.Nat.Init
import TemplateEngine.Calendar
/-!
Dates and day numbers. Each day number is that of one date of the proleptic Gregorian calendar, and the
number of the next day is one more.
-/
namespace TemplateEngine

namespace Calendar

def daysInMonth (y m : Int) : Int :=
  if m = 2 then (if isLeap y then 29 else 28)
  else if m = 4 ∨ m = 6 ∨ m = 9 ∨ m = 11 then 30 else 31

def daysInYear (y : Int) : Int := if isLeap y then 366 else 365

/-- The month and the day of a year on which a day of it falls, counted from zero. -/
def ofYearDay (y n : Int) : Date :=
  let month : Int := (List.range 12).countP fun (i : Nat) => daysBeforeMonth y (i + 1) ≤ n
  ⟨y, month, n - daysBeforeMonth y month + 1⟩

end Calendar

/-- A date whose month and day are in the calendar; its year may be any. -/
structure Date.Proper (d : Date) : Prop where
  month : 1 ≤ d.month ∧ d.month ≤ 12
  day : 1 ≤ d.day ∧ d.day ≤ Calendar.daysInMonth d.year d.month

/-- The next day. -/
def Date.next (d : Date) : Date :=
  if d.day < Calendar.daysInMonth d.year d.month then ⟨d.year, d.month, d.day + 1⟩
  else if d.month < 12 then ⟨d.year, d.month + 1, 1⟩
  else ⟨d.year + 1, 1, 1⟩

namespace Calendar

/-! ## Months -/

theorem daysBeforeMonth_one (y : Int) : daysBeforeMonth y 1 = 0 := by
  cases h : isLeap y <;> simp [daysBeforeMonth, monthStarts]

/-- Each month but the last one is followed by another one. -/
theorem daysBeforeMonth_succ {m : Int} (y : Int) (low : 1 ≤ m) (high : m < 12) :
    daysBeforeMonth y (m + 1) = daysBeforeMonth y m + daysInMonth y m := by
  obtain rfl | rfl | rfl | rfl | rfl | rfl | rfl | rfl | rfl | rfl | rfl : m = 1 ∨ m = 2 ∨ m = 3 ∨
      m = 4 ∨ m = 5 ∨ m = 6 ∨ m = 7 ∨ m = 8 ∨ m = 9 ∨ m = 10 ∨ m = 11 := by omega
  all_goals cases h : isLeap y <;> simp [daysBeforeMonth, daysInMonth, monthStarts, h]

theorem daysBeforeMonth_december (y : Int) :
    daysBeforeMonth y 12 + daysInMonth y 12 = daysInYear y := by
  cases h : isLeap y <;> simp [daysBeforeMonth, daysInMonth, monthStarts, daysInYear, h]

theorem daysInMonth_pos (y m : Int) : 1 ≤ daysInMonth y m := by
  unfold daysInMonth
  split
  · split <;> omega
  · split <;> omega

/-- Those numbers that satisfy a predicate are the first ones, if with each number the one before it
satisfies it. -/
theorem lt_countP_range_iff {p : Nat → Bool} {n : Nat}
    (down : ∀ i, i + 1 < n → p (i + 1) = true → p i = true) {i : Nat} (hi : i < n) :
    p i = true ↔ i < (List.range n).countP p := by
  induction n generalizing i with
  | zero => omega
  | succ n ih =>
    have earlier := @ih fun i hi => down i (by omega)
    have bound : (List.range n).countP p ≤ n := by
      simpa using List.countP_le_length (p := p) (l := List.range n)
    rw [List.range_succ, List.countP_append]
    by_cases last : p n = true
    · have all : ∀ k, k ≤ n → p k = true := by
        intro k hk
        induction hk using Nat.decreasingInduction with
        | self => exact last
        | of_succ k hk next => exact down k (by omega) next
      have every : ∀ k ∈ List.range n, p k = true :=
        fun k hk => all k (Nat.le_of_lt (List.mem_range.mp hk))
      have whole : (List.range n).countP p = n := by
        simpa using List.countP_eq_length.mpr every
      have here := all i (by omega)
      simp [here, whole, last]
      omega
    · simp only [List.countP_singleton, last]
      by_cases here : i = n
      · subst here
        simp [last, bound]
      · exact earlier (by omega)

/-- The days of a month come before those of any later month. -/
theorem daysBeforeMonth_mono {a b : Int} (y : Int) (low : 1 ≤ a) (order : a ≤ b) (high : b ≤ 12) :
    daysBeforeMonth y a ≤ daysBeforeMonth y b := by
  obtain ⟨k, rfl⟩ : ∃ k : Nat, b = a + k := ⟨(b - a).toNat, by omega⟩
  induction k with
  | zero => simp
  | succ k ih =>
    have before := ih (by omega) (by omega)
    have next := daysBeforeMonth_succ (m := a + k) y (by omega) (by omega)
    have some_day := daysInMonth_pos y (a + k)
    rw [show a + (k + 1 : Nat) = a + k + 1 by omega]
    omega

/-- A month has begun on a day of the year exactly if it is among the first months, up to that of the
day. -/
theorem begun_iff (y n : Int) {i : Nat} (hi : i < 12) :
    daysBeforeMonth y (i + 1) ≤ n ↔
      i < (List.range 12).countP fun (i : Nat) => decide (daysBeforeMonth y (i + 1) ≤ n) := by
  have down : ∀ i, i + 1 < 12 → decide (daysBeforeMonth y ((i + 1 : Nat) + 1) ≤ n) = true →
      decide (daysBeforeMonth y (i + 1) ≤ n) = true := by
    intro i hi later
    have order := daysBeforeMonth_mono (a := i + 1) (b := (i + 1 : Nat) + 1) y (by omega) (by omega)
      (by omega)
    exact decide_eq_true (Int.le_trans order (of_decide_eq_true later))
  rw [← lt_countP_range_iff down hi, decide_eq_true_iff]

/-- A month ends before any later one begins. -/
theorem month_end_le {a b : Int} (y : Int) (low : 1 ≤ a) (order : a < b) (high : b ≤ 12) :
    daysBeforeMonth y a + daysInMonth y a ≤ daysBeforeMonth y b := by
  rw [← daysBeforeMonth_succ y low (by omega)]
  exact daysBeforeMonth_mono y (by omega) order high

/-- A month ends with its year, or before. -/
theorem month_end_le_year {m : Int} (y : Int) (low : 1 ≤ m) (high : m ≤ 12) :
    daysBeforeMonth y m + daysInMonth y m ≤ daysInYear y := by
  have december := daysBeforeMonth_december y
  by_cases last : m = 12
  · rw [last]
    omega
  · have before := month_end_le y low (by omega : m < 12) (Int.le_refl 12)
    have some_day := daysInMonth_pos y 12
    omega

/-- Every day of a year falls on one of its months. -/
theorem ofYearDay_spec {y n : Int} (low : 0 ≤ n) (high : n < daysInYear y) : ∃ m : Int,
    1 ≤ m ∧ m ≤ 12 ∧ daysBeforeMonth y m ≤ n ∧ n < daysBeforeMonth y m + daysInMonth y m ∧
      ofYearDay y n = ⟨y, m, n - daysBeforeMonth y m + 1⟩ := by
  have begun := fun (i : Nat) (hi : i < 12) => begun_iff y n hi
  have bound : ((List.range 12).countP fun (i : Nat) => decide (daysBeforeMonth y (i + 1) ≤ n)) ≤
      (List.range 12).length := List.countP_le_length
  refine ⟨((List.range 12).countP fun (i : Nat) => decide (daysBeforeMonth y (i + 1) ≤ n) : Nat),
    ?_, ?_, ?_, ?_, rfl⟩
  all_goals
    generalize (List.range 12).countP (fun (i : Nat) => decide (daysBeforeMonth y (i + 1) ≤ n)) = c at *
    rw [List.length_range] at bound
  · have first : 0 < c := (begun 0 (by omega)).mp (by simpa [daysBeforeMonth_one] using low)
    omega
  · omega
  · have first : 0 < c := (begun 0 (by omega)).mp (by simpa [daysBeforeMonth_one] using low)
    have here := (begun (c - 1) (by omega)).mpr (by omega)
    rwa [show ((c - 1 : Nat) : Int) + 1 = c by omega] at here
  · have first : 0 < c := (begun 0 (by omega)).mp (by simpa [daysBeforeMonth_one] using low)
    by_cases last : c = 12
    · have ending := daysBeforeMonth_december y
      rw [last, show ((12 : Nat) : Int) = 12 from rfl]
      omega
    · have after := mt (begun c (by omega)).mp (Nat.lt_irrefl c)
      have next := daysBeforeMonth_succ (m := c) y (by omega) (by omega)
      omega

/-- The month of a day is the one whose days it lies among. -/
theorem ofYearDay_of_within {y m n : Int} (low : 1 ≤ m) (high : m ≤ 12)
    (begun : daysBeforeMonth y m ≤ n) (within : n < daysBeforeMonth y m + daysInMonth y m) :
    ofYearDay y n = ⟨y, m, n - daysBeforeMonth y m + 1⟩ := by
  have start := daysBeforeMonth_mono y (Int.le_refl 1) low high
  rw [daysBeforeMonth_one] at start
  have ending := month_end_le_year y low high
  obtain ⟨m', low', high', begun', within', date⟩ := ofYearDay_spec (y := y) (n := n) (by omega) (by omega)
  have same : m' = m := by
    rcases Int.lt_trichotomy m m' with before | same | after
    · have apart := month_end_le y low before high'
      omega
    · exact same.symm
    · have apart := month_end_le y low' after high
      omega
  rw [date, same]

/-! ## Years -/

theorem isLeap_iff (y : Int) : isLeap y = true ↔ y % 4 = 0 ∧ (y % 100 ≠ 0 ∨ y % 400 = 0) := by
  simp [isLeap]

/-- The days before a year whose predecessor is so many cycles of 400, 100, 4 and 1 years. -/
theorem daysBeforeYear_cycles {a b c d : Int} (hb : 0 ≤ b ∧ b ≤ 3) (hc : 0 ≤ c ∧ c ≤ 24)
    (hd : 0 ≤ d ∧ d ≤ 3) : daysBeforeYear (400 * a + 100 * b + 4 * c + d + 1) =
      146097 * a + 36524 * b + 1461 * c + 365 * d := by
  have fourth : (400 * a + 100 * b + 4 * c + d) / 4 = 100 * a + 25 * b + c := by omega
  have hundredth : (400 * a + 100 * b + 4 * c + d) / 100 = 4 * a + b := by omega
  have last : (400 * a + 100 * b + 4 * c + d) / 400 = a := by omega
  rw [daysBeforeYear, Int.add_sub_cancel, fourth, hundredth, last]
  omega

/-- The last year of four is a leap year, unless it ends a hundred years that do not end four
hundred. -/
theorem isLeap_cycles {a b c d : Int} (hb : 0 ≤ b ∧ b ≤ 3) (hc : 0 ≤ c ∧ c ≤ 24)
    (hd : 0 ≤ d ∧ d ≤ 3) : isLeap (400 * a + 100 * b + 4 * c + d + 1) = true ↔
      d = 3 ∧ (c < 24 ∨ b = 3) := by
  have fourth : (400 * a + 100 * b + 4 * c + d + 1) % 4 = 0 ↔ d = 3 := by omega
  have hundredth : (400 * a + 100 * b + 4 * c + d + 1) % 100 = 0 ↔ d = 3 ∧ c = 24 := by omega
  have last : (400 * a + 100 * b + 4 * c + d + 1) % 400 = 0 ↔ d = 3 ∧ c = 24 ∧ b = 3 := by omega
  rw [isLeap_iff, fourth, ne_eq, hundredth, last]
  omega

theorem daysBeforeYear_succ (y : Int) : daysBeforeYear (y + 1) = daysBeforeYear y + daysInYear y := by
  have fourth : y / 4 = (y - 1) / 4 + if y % 4 = 0 then 1 else 0 := by split <;> omega
  have hundredth : y / 100 = (y - 1) / 100 + if y % 100 = 0 then 1 else 0 := by split <;> omega
  have last : y / 400 = (y - 1) / 400 + if y % 400 = 0 then 1 else 0 := by split <;> omega
  have leap : daysInYear y = 365 + (if y % 4 = 0 then 1 else 0) - (if y % 100 = 0 then 1 else 0) +
      if y % 400 = 0 then 1 else 0 := by
    simp only [daysInYear, isLeap_iff]
    split <;> split <;> split <;> split <;> omega
  rw [daysBeforeYear, daysBeforeYear, Int.add_sub_cancel, fourth, hundredth, last, leap]
  omega

/-- A day number falls into a year. -/
theorem ofDayNumber_eq (n : Int) : ∃ y, daysBeforeYear y ≤ n ∧ n < daysBeforeYear (y + 1) ∧
    ofDayNumber n = ofYearDay y (n - daysBeforeYear y) := by
  -- The cycles of 400, 100, 4 and 1 years that are over, and the days that are left after each.
  obtain ⟨a, ha⟩ : ∃ a, a = n / 146097 := ⟨_, rfl⟩
  obtain ⟨r, hr⟩ : ∃ r, r = n % 146097 := ⟨_, rfl⟩
  obtain ⟨b, hb⟩ : ∃ b, b = min 3 (r / 36524) := ⟨_, rfl⟩
  obtain ⟨c, hc⟩ : ∃ c, c = (r - b * 36524) / 1461 := ⟨_, rfl⟩
  obtain ⟨s, hs⟩ : ∃ s, s = (r - b * 36524) % 1461 := ⟨_, rfl⟩
  obtain ⟨d, hd⟩ : ∃ d, d = min 3 (s / 365) := ⟨_, rfl⟩
  have day : n = 146097 * a + r := by omega
  have rest : r = 36524 * b + 1461 * c + s := by omega
  have r_bounds : 0 ≤ r ∧ r < 146097 := by omega
  have b_bounds : (0 ≤ b ∧ b ≤ 3) ∧ 36524 * b ≤ r ∧ (b < 3 → r < 36524 * b + 36524) := by omega
  have c_bounds : 0 ≤ c ∧ c ≤ 24 := by omega
  have s_bounds : 0 ≤ s ∧ s < 1461 := by omega
  have d_bounds : (0 ≤ d ∧ d ≤ 3) ∧ 365 * d ≤ s ∧ (d < 3 → s < 365 * d + 365) := by omega
  have year : daysBeforeYear (400 * a + 100 * b + 4 * c + d + 1) = n - (s - 365 * d) := by
    rw [daysBeforeYear_cycles b_bounds.1 c_bounds d_bounds.1]
    omega
  refine ⟨400 * a + 100 * b + 4 * c + d + 1, by omega, ?_, ?_⟩
  · rw [daysBeforeYear_succ, daysInYear, year]
    have leap := isLeap_cycles (a := a) b_bounds.1 c_bounds d_bounds.1
    split
    · omega
    · have common : ¬(d = 3 ∧ (c < 24 ∨ b = 3)) := by rwa [← leap]
      omega
  · have given : ofDayNumber n = ofYearDay (a * 400 + b * 100 + c * 4 + d + 1) (s - d * 365) := by
      subst ha hr hb hc hs hd
      rfl
    rw [given, year]
    congr 1 <;> omega

/-! ## Day numbers -/

variable {d : Date}

theorem dayNumber_ofDayNumber (n : Int) : dayNumber (ofDayNumber n) = n := by
  obtain ⟨y, -, -, date⟩ := ofDayNumber_eq n
  rw [date, dayNumber, ofYearDay]
  dsimp only
  omega

/-- The day of a date, counted from the first of its year. -/
theorem yearDay_bounds (h : d.Proper) :
    0 ≤ daysBeforeMonth d.year d.month + (d.day - 1) ∧
      daysBeforeMonth d.year d.month + (d.day - 1) < daysInYear d.year := by
  have start := daysBeforeMonth_mono d.year (Int.le_refl 1) h.month.1 h.month.2
  rw [daysBeforeMonth_one] at start
  have ending := month_end_le_year d.year h.month.1 h.month.2
  have day := h.day
  omega

theorem daysBeforeYear_mono {y z : Int} (h : y ≤ z) : daysBeforeYear y ≤ daysBeforeYear z := by
  simp only [daysBeforeYear]
  omega

/-- A day lies in one year only. -/
theorem year_unique {y z n : Int} (hy : daysBeforeYear y ≤ n ∧ n < daysBeforeYear (y + 1))
    (hz : daysBeforeYear z ≤ n ∧ n < daysBeforeYear (z + 1)) : y = z := by
  rcases Int.lt_trichotomy y z with before | same | after
  · have := daysBeforeYear_mono (show y + 1 ≤ z from before)
    omega
  · exact same
  · have := daysBeforeYear_mono (show z + 1 ≤ y from after)
    omega

/-- The date of the day number of a date is that date. -/
theorem ofDayNumber_dayNumber (h : d.Proper) : ofDayNumber (dayNumber d) = d := by
  obtain ⟨y, low, high, date⟩ := ofDayNumber_eq (dayNumber d)
  have within := yearDay_bounds h
  have own : daysBeforeYear d.year ≤ dayNumber d ∧ dayNumber d < daysBeforeYear (d.year + 1) := by
    rw [daysBeforeYear_succ, dayNumber]
    omega
  obtain rfl := year_unique ⟨low, high⟩ own
  have left : dayNumber d - daysBeforeYear d.year = daysBeforeMonth d.year d.month + (d.day - 1) := by
    rw [dayNumber]
    omega
  have day := h.day
  rw [date, left, ofYearDay_of_within h.month.1 h.month.2 (by omega) (by omega)]
  congr 1
  omega

theorem proper_ofDayNumber (n : Int) : (ofDayNumber n).Proper := by
  obtain ⟨y, low, high, date⟩ := ofDayNumber_eq n
  rw [daysBeforeYear_succ] at high
  obtain ⟨m, month_low, month_high, begun, within, found⟩ :=
    ofYearDay_spec (y := y) (n := n - daysBeforeYear y) (by omega) (by omega)
  rw [date, found]
  exact ⟨⟨month_low, month_high⟩, by dsimp only; omega⟩

/-- The next day has the next number. -/
theorem dayNumber_next (h : d.Proper) : dayNumber d.next = dayNumber d + 1 := by
  have day := h.day
  have month := h.month
  unfold Date.next
  split
  · simp only [dayNumber]
    omega
  · split
    · have next := daysBeforeMonth_succ d.year month.1 ‹d.month < 12›
      simp only [dayNumber]
      omega
    · have december : d.month = 12 := by omega
      have ending := daysBeforeMonth_december d.year
      have next := daysBeforeYear_succ d.year
      have first := daysBeforeMonth_one (d.year + 1)
      simp only [dayNumber, december] at *
      omega

end Calendar

end TemplateEngine
