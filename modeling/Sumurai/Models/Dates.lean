import Sumurai.Foundations.Calendar
import Sumurai.Models.Basic

/-!
# Calendar dates

The parts of `chrono::NaiveDate` that go through years and months. A date is a day number, so its
year, month and day of the month are those of the Gregorian calendar, moved to the epoch. The type
ends with the years `MIN_YEAR` and `MAX_YEAR`, and `from_ymd_opt` has no date outside of them.
-/

namespace Sumurai.NaiveDate

/-- 1970-01-01, counted from 1 January of the year 1. -/
def epoch : ℤ := 719162

/-- The first year of the type. -/
def MIN_YEAR : ℤ := -262143

/-- The last year of the type. -/
def MAX_YEAR : ℤ := 262142

/-- `NaiveDate::MIN`, the first day of the year -262143. -/
def MIN : NaiveDate := -96465292

example : Gregorian.firstOfYear MIN_YEAR = MIN + epoch := by decide

example : Gregorian.firstOfYear (MAX_YEAR + 1) = MAX + 1 + epoch := by decide

/-- `Datelike::year`. -/
def year (d : NaiveDate) : ℤ :=
  Gregorian.year (d + epoch)

/-- `Datelike::month`. -/
def month (d : NaiveDate) : ℕ :=
  Gregorian.month (d + epoch)

/-- `Datelike::day`. -/
def day (d : NaiveDate) : ℕ :=
  (Gregorian.day (d + epoch)).toNat

/-- The number of days of a month. -/
def daysInMonth (y : ℤ) (m : ℕ) : ℕ :=
  (Gregorian.firstOfMonth y (m + 1) - Gregorian.firstOfMonth y m).toNat

/-- `NaiveDate::from_ymd_opt`. -/
def fromYmdOpt (y : ℤ) (m d : ℕ) : Option NaiveDate :=
  if (MIN_YEAR ≤ y ∧ y ≤ MAX_YEAR) ∧ (1 ≤ m ∧ m ≤ 12) ∧ 1 ≤ d ∧ d ≤ daysInMonth y m then
    some (Gregorian.firstOfMonth y m + (d - 1) - epoch)
  else none

/-- `NaiveDate::pred_opt`: the day before, if the calendar has one. -/
def predOpt (d : NaiveDate) : Option NaiveDate :=
  if MIN < d then some (d - 1) else none

/-- The first day of a month. -/
def monthStart (y : ℤ) (m : ℕ) : NaiveDate :=
  Gregorian.firstOfMonth y m - epoch

/-- A month of the calendar, as a range of days. -/
theorem mem_month_iff {d : NaiveDate} {y : ℤ} {m : ℕ} (hone : 1 ≤ m) (htwelve : m ≤ 12) :
    (year d = y ∧ month d = m) ↔ monthStart y m ≤ d ∧ d < monthStart y (m + 1) := by
  rw [year, month, Gregorian.mem_month_iff hone htwelve, monthStart, monthStart,
    sub_le_iff_le_add, lt_sub_iff_add_lt]

theorem monthStart_thirteen (y : ℤ) : monthStart y 13 = monthStart (y + 1) 1 := by
  rw [monthStart, monthStart, Gregorian.firstOfMonth_thirteen, Gregorian.firstOfMonth_one]

/-- The day of the month counts from the first of the month. -/
theorem day_eq {d : NaiveDate} {y : ℤ} {m : ℕ} (hyear : year d = y) (hmonth : month d = m) :
    (day d : ℤ) = d - monthStart y m + 1 := by
  have hpos := Gregorian.one_le_day (d + epoch)
  rw [day, Int.toNat_of_nonneg (by omega), Gregorian.day, ← hyear, ← hmonth, monthStart, year,
    month]
  lia

/-- A month has a day. -/
theorem monthStart_lt_succ (y : ℤ) {m : ℕ} (hone : 1 ≤ m) (htwelve : m ≤ 12) :
    monthStart y m < monthStart y (m + 1) := by
  have hall : ∀ leap, ∀ m < 13, 1 ≤ m →
      Gregorian.daysBefore leap m < Gregorian.daysBefore leap (m + 1) := by decide
  have hlt := hall (Gregorian.isLeap y) m (Nat.lt_succ_of_le htwelve) hone
  exact sub_lt_sub_right (add_lt_add_right hlt _) epoch

/-- Every month but the very first starts after the first day of the type. -/
theorem MIN_lt_monthStart {y : ℤ} {m : ℕ} (hyear : MIN_YEAR ≤ y) (hone : 1 ≤ m)
    (htwelve : m ≤ 12) : MIN < monthStart y (m + 1) := by
  have hfirst : MIN = monthStart MIN_YEAR 1 := by decide
  have hmonth : monthStart y 1 ≤ monthStart y m :=
    sub_le_sub_right (add_le_add_right (Gregorian.daysBefore_mono _ hone (by omega)) _) epoch
  have hmono : monthStart MIN_YEAR 1 ≤ monthStart y 1 := by
    rw [monthStart, monthStart, Gregorian.firstOfMonth_one, Gregorian.firstOfMonth_one]
    exact sub_le_sub_right (Gregorian.firstOfYear_strictMono.monotone hyear) epoch
  exact (hfirst ▸ hmono.trans hmonth).trans_lt (monthStart_lt_succ y hone htwelve)

/-- `from_ymd_opt` of the first of a month. -/
theorem fromYmdOpt_first {y : ℤ} {m : ℕ} (hyear : MIN_YEAR ≤ y ∧ y ≤ MAX_YEAR)
    (hmonth : 1 ≤ m ∧ m ≤ 12) : fromYmdOpt y m 1 = some (monthStart y m) := by
  have hlength : 1 ≤ daysInMonth y m := by
    have hlt := monthStart_lt_succ y hmonth.1 hmonth.2
    simp only [monthStart] at hlt
    rw [daysInMonth]
    lia
  rw [fromYmdOpt, if_pos ⟨hyear, hmonth, le_rfl, hlength⟩]
  exact congrArg some (by rw [monthStart, Nat.cast_one, sub_self, add_zero])

/-- The type has no month `13`. -/
theorem fromYmdOpt_thirteen (y : ℤ) : fromYmdOpt y 13 1 = none :=
  if_neg fun h ↦ absurd h.2.1.2 (by decide)

/-- The type ends with its last year. -/
theorem fromYmdOpt_of_lt {y : ℤ} (h : MAX_YEAR < y) (m d : ℕ) : fromYmdOpt y m d = none :=
  if_neg fun hvalid ↦ absurd hvalid.1.2 (not_le.2 h)

theorem one_le_day (d : NaiveDate) : 1 ≤ day d := by
  have h := Gregorian.one_le_day (d + epoch)
  rw [day]
  omega

theorem day_le_daysInMonth (d : NaiveDate) : day d ≤ daysInMonth (year d) (month d) :=
  Int.toNat_le_toNat (Gregorian.day_le (d + epoch))

end Sumurai.NaiveDate
