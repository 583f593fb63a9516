import Sumurai.Frontend.BudgetCalculator
import Sumurai.Frontend.LocalDates

/-!
# The days of a month

The budgets page and the transactions page both load the days of a month. `computeMonthRange` writes
the local days of two dates; `getMonthRange` writes the days that two local midnights are in UTC,
which are those before where the zone is ahead of it. It also makes its dates with a constructor
that has no year before 100.

## Main result

`monthRange_iff`: for which months and which zones both give the days of the calendar.
-/

namespace Sumurai.Frontend

/-! ### The two helpers -/

namespace TimeZone

variable (z : TimeZone)

/-- `normalizeMonth`. -/
def normalizeMonth (date : ℤ) : Option ℤ :=
  z.newDate (z.getFullYear date) (z.getMonth date) 1

/-- `getMonthRange` of `useBudgets`, unless it throws, as `toISOString` does on an invalid date. -/
def getMonthRange (date : ℤ) : Option (List Char × List Char) := do
  let start ← z.newDate (z.getFullYear date) (z.getMonth date) 1
  let stop ← z.newDate (z.getFullYear date) (z.getMonth date + 1) 0
  return ((toISOString start).take 10, (toISOString stop).take 10)

/-- `computeMonthRange`. -/
def computeMonthRange (selection : MonthYearSelection) : List Char × List Char :=
  match selection.month with
  | none =>
    (z.fmt (z.localDate selection.year 0 1), z.fmt (z.localDate selection.year 12 0))
  | some month =>
    (z.fmt (z.localDate selection.year month 1), z.fmt (z.localDate selection.year (month + 1) 0))

end TimeZone

/-- The first day of a month, counted from zero. -/
def firstDay (year : ℤ) (month : ℕ) : NaiveDate :=
  NaiveDate.monthStart year (month + 1)

/-- The last day of a month, counted from zero. -/
def lastDay (year : ℤ) (month : ℕ) : NaiveDate :=
  NaiveDate.monthStart year (month + 2) - 1

theorem makeDay_first (year : ℤ) {month : ℕ} (h : month < 12) :
    makeDay year month 1 = firstDay year month := by
  rw [makeDay_eq year h.le, sub_self, add_zero, firstDay]

theorem makeDay_last (year : ℤ) {month : ℕ} (h : month < 12) :
    makeDay year (month + 1) 0 = lastDay year month := by
  rw [makeDay_eq year h, zero_sub, ← sub_eq_add_neg, lastDay]

theorem year_firstDay (year : ℤ) {month : ℕ} (h : month < 12) :
    NaiveDate.year (firstDay year month) = year :=
  ((NaiveDate.mem_month_iff (Nat.succ_pos month) h).2
    ⟨le_rfl, NaiveDate.monthStart_lt_succ year (Nat.succ_pos month) h⟩).1

theorem month_firstDay (year : ℤ) {month : ℕ} (h : month < 12) :
    NaiveDate.month (firstDay year month) = month + 1 :=
  ((NaiveDate.mem_month_iff (Nat.succ_pos month) h).2
    ⟨le_rfl, NaiveDate.monthStart_lt_succ year (Nat.succ_pos month) h⟩).2

theorem year_lastDay (year : ℤ) {month : ℕ} (h : month < 12) :
    NaiveDate.year (lastDay year month) = year :=
  ((NaiveDate.mem_month_iff (Nat.succ_pos month) h).2
    ⟨Int.le_sub_one_of_lt (NaiveDate.monthStart_lt_succ year (Nat.succ_pos month) h),
      Int.sub_one_lt_of_le le_rfl⟩).1

/-! ### One day -/

/-- A day of a year with at most four digits is far from the ends of what a date can hold. -/
theorem bounds_of_year {day : ℤ} (h : 0 ≤ NaiveDate.year day ∧ NaiveDate.year day ≤ 9999) :
    -90000000 ≤ day ∧ day ≤ 90000000 := by
  have hyear := year_bounds day
  have hlow : NaiveDate.monthStart 0 1 ≤ _ := monthStart_mono h.1
  have hhigh : _ ≤ NaiveDate.monthStart 10000 1 := monthStart_mono (Int.add_le_add_right h.2 1)
  have hzero : -90000000 ≤ NaiveDate.monthStart 0 1 := by decide
  have hlast : NaiveDate.monthStart 10000 1 ≤ 90000000 := by decide
  exact ⟨hzero.trans (hlow.trans hyear.1), hyear.2.le.trans (hhigh.trans hlast)⟩

namespace TimeZone

variable {z : TimeZone}

theorem newDate_eq_some_iff {year : ℤ} {month : ℕ} {date t : ℤ}
    (h : 0 ≤ year ∧ year ≤ 9999) (hyear : ∀ year, NaiveDate.year (makeDay year month date) = year)
    (hlarge : 100 ≤ year) :
    z.newDate year month date = some t ↔ z.utc (makeDay year month date * msPerDay) = t := by
  have hbounds := bounds_of_year ((hyear year).symm ▸ h)
  have hnear := z.utc_near (makeDay year month date * msPerDay)
  rw [newDate, if_neg (by omega), timeClip_of_day hbounds.1 hbounds.2
    (hnear.trans_le (by decide)), Option.some.injEq]

/-- The days of the first hundred years are not those that the constructor takes for them. -/
theorem day_ne_of_newDate {year : ℤ} {month : ℕ} {date t : ℤ} (h : 0 ≤ year ∧ year ≤ 99)
    (hyear : ∀ year, NaiveDate.year (makeDay year month date) = year)
    (ht : z.newDate year month date = some t) : t / msPerDay ≠ makeDay year month date := by
  obtain ⟨-, ht⟩ := Option.ite_none_right_eq_some.1 ht
  rw [if_pos h, Option.some.injEq] at ht
  have hnear := z.utc_near (makeDay (1900 + year) month date * msPerDay)
  have hlow := (year_bounds (makeDay (1900 + year) month date)).1
  have hhigh := (year_bounds (makeDay year month date)).2
  rw [hyear] at hlow hhigh
  have hfirst := monthStart_mono (Int.le_add_of_nonneg_right h.1 : 1900 ≤ 1900 + year)
  have hlast := monthStart_mono (Int.add_le_add_right h.2 1)
  have hgap : NaiveDate.monthStart (99 + 1) 1 < NaiveDate.monthStart 1900 1 - 1 := by decide
  rw [ht, abs_lt, msPerDay] at hnear
  rw [msPerDay]
  lia

/-- **One day of `getMonthRange`**, whose year the day is in. -/
theorem newDate_iff (year : ℤ) {month : ℕ} {date : ℤ}
    (hyear : ∀ year, NaiveDate.year (makeDay year month date) = year) :
    (∃ t, z.newDate year month date = some t ∧
        (toISOString t).take 10 = calendarText (makeDay year month date)) ↔
      (100 ≤ year ∧ year ≤ 9999) ∧ makeDay year month date * msPerDay ≤
        z.utc (makeDay year month date * msPerDay) := by
  simp only [take_toISOString_eq_iff, hyear, ← utc_div_eq_iff]
  constructor
  · rintro ⟨t, ht, hday, hrange⟩
    have hlarge : 100 ≤ year := by
      by_contra hsmall
      exact day_ne_of_newDate ⟨hrange.1, by omega⟩ hyear ht hday
    obtain rfl := (newDate_eq_some_iff hrange hyear hlarge).1 ht
    exact ⟨⟨hlarge, hrange.2⟩, hday⟩
  · rintro ⟨⟨hlarge, hle⟩, hday⟩
    have hrange : 0 ≤ year ∧ year ≤ 9999 := ⟨by omega, hle⟩
    exact ⟨_, (newDate_eq_some_iff hrange hyear hlarge).2 rfl, hday, hrange⟩

/-- **One day of `computeMonthRange`**. -/
theorem fmt_localDate_iff {year : ℤ} {month : ℕ} {date : ℤ} (hrange : 0 ≤ year ∧ year ≤ 9999)
    (hyear : NaiveDate.year (makeDay year month date) = year) :
    z.fmt (z.localDate year month date) = calendarText (makeDay year month date) ↔
      z.HasDay (makeDay year month date) := by
  have hbounds := bounds_of_year (hyear.symm ▸ hrange)
  constructor
  · intro htext
    cases hdate : z.localDate year month date with
    | none =>
      have hlength := length_dateText (NaiveDate.year (makeDay year month date)).toNat
        (NaiveDate.month (makeDay year month date)) (NaiveDate.day (makeDay year month date))
      have hnone : (z.fmt none).length = 11 := rfl
      rw [← calendarText_eq (hyear.symm ▸ hrange), ← htext, hdate, hnone] at hlength
      exact absurd hlength (by decide)
    | some t =>
      rw [hdate, fmt_some, calendarText_inj (hyear.symm ▸ hrange)] at htext
      exact (z.localDay_localDate hdate).1 htext
  · intro hhas
    obtain ⟨t, ht⟩ : ∃ t, z.localDate year month date = some t := by
      have htime := Int.emod_lt_of_pos (z.localTime 0) (by decide : 0 < msPerDay)
      have hpos := Int.emod_nonneg (z.localTime 0) (by decide : msPerDay ≠ 0)
      have hnear := abs_lt.1 (z.utc_near
        (makeDay year month date * msPerDay + z.localTime 0 % msPerDay))
      have hdate := timeClip_of_day hbounds.1 hbounds.2 (t := z.utc
        (makeDay year month date * msPerDay + z.localTime 0 % msPerDay))
          (abs_lt.2 ⟨by lia, by lia⟩)
      have hmidnight := timeClip_of_day hbounds.1 hbounds.2
        ((z.utc_near (makeDay year month date * msPerDay)).trans_le (by decide))
      refine ⟨z.utc (makeDay year month date * msPerDay), ?_⟩
      rw [localDate, hdate, Option.bind_eq_bind, Option.bind_some, hhas.1, hmidnight]
    rw [ht, fmt_some, (z.localDay_localDate ht).2 hhas]

end TimeZone

/-! ### The range -/

theorem TimeZone.getMonth_lt (z : TimeZone) (t : ℤ) : z.getMonth t < 12 := by
  have hle := month_le (z.localDay t)
  rw [← z.getMonth_add_one] at hle
  exact hle


theorem TimeZone.getMonthRange_eq_some_iff (z : TimeZone) (date : ℤ) {start stop : List Char} :
    z.getMonthRange date = some (start, stop) ↔
      (∃ t, z.newDate (z.getFullYear date) (z.getMonth date) 1 = some t ∧
        (toISOString t).take 10 = start) ∧
      ∃ t, z.newDate (z.getFullYear date) (z.getMonth date + 1) 0 = some t ∧
        (toISOString t).take 10 = stop := by
  rw [getMonthRange]
  cases z.newDate (z.getFullYear date) (z.getMonth date) 1 <;>
    cases z.newDate (z.getFullYear date) (z.getMonth date + 1) 0 <;> simp

/-- The range of a month is that of its first day, which is what the page keeps of it. -/
theorem TimeZone.getMonthRange_normalizeMonth (z : TimeZone) {date first : ℤ}
    (hyear : 100 ≤ z.getFullYear date)
    (hday : z.HasDay (firstDay (z.getFullYear date) (z.getMonth date)))
    (h : z.normalizeMonth date = some first) : z.getMonthRange first = z.getMonthRange date := by
  have hmonth := z.getMonth_lt date
  obtain ⟨-, hfirst⟩ := Option.ite_none_right_eq_some.1 h
  rw [if_neg (by omega), makeDay_first _ hmonth, Option.some.injEq] at hfirst
  have hlocal : z.localDay first = firstDay (z.getFullYear date) (z.getMonth date) := by
    rw [← hfirst, hday.2]
  have hsameYear : z.getFullYear first = z.getFullYear date := by
    rw [getFullYear, hlocal, year_firstDay _ hmonth]
  have hsameMonth : z.getMonth first = z.getMonth date := by
    rw [getMonth, hlocal, month_firstDay _ hmonth, Nat.add_sub_cancel]
  rw [getMonthRange, getMonthRange, hsameYear, hsameMonth]

/-- **Month ranges.** Both helpers give the first and the last day of a month exactly if its year is
between 100 and 9999, the zone has the two days and is not ahead of UTC when they begin. -/
theorem monthRange_iff (z : TimeZone) (date : ℤ) :
    (z.getMonthRange date =
        some (calendarText (firstDay (z.getFullYear date) (z.getMonth date)),
          calendarText (lastDay (z.getFullYear date) (z.getMonth date))) ∧
      z.computeMonthRange ⟨z.getFullYear date, some (z.getMonth date)⟩ =
        (calendarText (firstDay (z.getFullYear date) (z.getMonth date)),
          calendarText (lastDay (z.getFullYear date) (z.getMonth date)))) ↔
      (100 ≤ z.getFullYear date ∧ z.getFullYear date ≤ 9999) ∧
        ∀ day ∈ [firstDay (z.getFullYear date) (z.getMonth date),
            lastDay (z.getFullYear date) (z.getMonth date)],
          day * msPerDay ≤ z.utc (day * msPerDay) ∧ z.HasDay day := by
  have hmonth := z.getMonth_lt date
  have hfirst := makeDay_first (z.getFullYear date) hmonth
  have hlast := makeDay_last (z.getFullYear date) hmonth
  have hstart := z.newDate_iff (z.getFullYear date) fun year ↦
    makeDay_first year hmonth ▸ year_firstDay year hmonth
  have hstop := z.newDate_iff (z.getFullYear date) fun year ↦
    makeDay_last year hmonth ▸ year_lastDay year hmonth
  rw [hfirst] at hstart
  rw [hlast] at hstop
  have hcompute (hrange : 0 ≤ z.getFullYear date ∧ z.getFullYear date ≤ 9999) :
      z.computeMonthRange ⟨z.getFullYear date, some (z.getMonth date)⟩ =
          (calendarText (firstDay (z.getFullYear date) (z.getMonth date)),
            calendarText (lastDay (z.getFullYear date) (z.getMonth date))) ↔
        z.HasDay (firstDay (z.getFullYear date) (z.getMonth date)) ∧
          z.HasDay (lastDay (z.getFullYear date) (z.getMonth date)) := by
    rw [TimeZone.computeMonthRange, Prod.mk.injEq, ← hfirst, ← hlast,
      z.fmt_localDate_iff hrange (hfirst ▸ year_firstDay _ hmonth),
      z.fmt_localDate_iff hrange (hlast ▸ year_lastDay _ hmonth)]
  rw [z.getMonthRange_eq_some_iff, hstart, hstop, List.forall_mem_cons, List.forall_mem_singleton]
  constructor
  · rintro ⟨⟨⟨hyear, hfirstUtc⟩, -, hlastUtc⟩, hranges⟩
    obtain ⟨hhasFirst, hhasLast⟩ := (hcompute ⟨by omega, hyear.2⟩).1 hranges
    exact ⟨hyear, ⟨hfirstUtc, hhasFirst⟩, hlastUtc, hhasLast⟩
  · rintro ⟨hyear, ⟨hfirstUtc, hhasFirst⟩, hlastUtc, hhasLast⟩
    exact ⟨⟨⟨hyear, hfirstUtc⟩, hyear, hlastUtc⟩,
      (hcompute ⟨by omega, hyear.2⟩).2 ⟨hhasFirst, hhasLast⟩⟩

/-- An hour ahead of UTC, all year round. -/
def oneHourAhead : TimeZone where
  offset _ := 3600000
  utc t := t - 3600000
  le_local_utc t := (sub_add_cancel t 3600000).ge
  utc_near t := by
    rw [sub_sub_cancel_left]
    decide

/-- In March 2024 the budgets page loads the last day of February, and not the 31st. -/
theorem march_one_day_early :
    oneHourAhead.getFullYear 1710504000000 = 2024 ∧ oneHourAhead.getMonth 1710504000000 = 2 ∧
      oneHourAhead.getMonthRange 1710504000000 =
        some ("2024-02-29".toList, "2024-03-30".toList) ∧
      oneHourAhead.computeMonthRange ⟨2024, some 2⟩ =
        ("2024-03-01".toList, "2024-03-31".toList) ∧
      (calendarText (firstDay 2024 2), calendarText (lastDay 2024 2)) =
        ("2024-03-01".toList, "2024-03-31".toList) := by
  decide

end Sumurai.Frontend
