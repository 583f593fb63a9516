import Mathlib.Algebra.Order.Group.Abs
import Sumurai.Frontend.Dates

/-!
# Local dates

A `Date` of JavaScript is an instant, in milliseconds since 1970 in UTC. Its getters read it in the
time zone of the browser, its constructor takes a day of that zone, and `toISOString` writes the day
that it is in UTC.

A `TimeZone` says how local times and instants correspond. Where the clock is set forward a local
time can be missing; it is then read as a later one, so a date can be read back on a later day than
it was made for (`HasDay`), never on an earlier one (`le_localDay_utc`).

## Main results

* `take_toISOString_eq_iff`: which instants `toISOString` writes with a given day;
* `localDay_localDate`: `localDate` makes a date of the day asked for, unless the zone skips it.
-/

namespace Sumurai.Frontend

open Text

/-- `msPerDay`. -/
def msPerDay : ℤ := 86400000

/-- A time zone: how far the clock is ahead at an instant, and the instant of a local time. -/
structure TimeZone where
  offset : ℤ → ℤ
  utc : ℤ → ℤ
  /-- A local time that is missing is read as a later one. -/
  le_local_utc : ∀ t, t ≤ utc t + offset (utc t)
  /-- Clocks differ by less than a day. -/
  utc_near : ∀ t, |utc t - t| < msPerDay

/-! ### Dates -/

/-- `TimeClip`, where no time is an invalid date. -/
def timeClip (t : ℤ) : Option ℤ :=
  if |t| ≤ 8640000000000000 then some t else none

/-- `MakeDay`. Months count from zero, and the months after December are those of the next year. -/
def makeDay (year : ℤ) (month : ℕ) (date : ℤ) : NaiveDate :=
  NaiveDate.monthStart (year + (month / 12 : ℕ)) (month % 12 + 1) + (date - 1)

/-- `toISOString`. -/
def toISOString (t : ℤ) : List Char :=
  let day : NaiveDate := t / msPerDay
  let ms := (t % msPerDay).toNat
  let year := NaiveDate.year day
  let yearText :=
    if 0 ≤ year ∧ year ≤ 9999 then padded 4 year.toNat
    else (if year < 0 then '-' else '+') :: padded 6 year.natAbs
  yearText ++ '-' :: (padded 2 (NaiveDate.month day) ++ '-' :: (padded 2 (NaiveDate.day day) ++
    'T' :: (padded 2 (ms / 3600000) ++ ':' :: (padded 2 (ms / 60000 % 60) ++
      ':' :: (padded 2 (ms / 1000 % 60) ++ '.' :: (padded 3 (ms % 1000) ++ ['Z']))))))

/-- `String(n).padStart(w, '0')`. -/
def padStart (w : ℕ) (n : ℤ) : List Char :=
  let s := (toString n).toList
  List.replicate (w - s.length) '0' ++ s

/-- A day as `fmt` writes it. -/
def dayText (year month day : ℤ) : List Char :=
  padStart 4 year ++ '-' :: (padStart 2 month ++ '-' :: padStart 2 day)

/-- The text of a day of the calendar. -/
def calendarText (day : NaiveDate) : List Char :=
  dayText (NaiveDate.year day) (NaiveDate.month day) (NaiveDate.day day)

namespace TimeZone

variable (z : TimeZone)

/-- `LocalTime`. -/
def localTime (t : ℤ) : ℤ :=
  t + z.offset t

/-- The day that an instant is on. -/
def localDay (t : ℤ) : NaiveDate :=
  z.localTime t / msPerDay

/-- `getFullYear`. -/
def getFullYear (t : ℤ) : ℤ :=
  NaiveDate.year (z.localDay t)

/-- `getMonth`. -/
def getMonth (t : ℤ) : ℕ :=
  NaiveDate.month (z.localDay t) - 1

/-- `getDate`. -/
def getDate (t : ℤ) : ℕ :=
  NaiveDate.day (z.localDay t)

/-- `new Date(year, month, date)`. The first hundred years are those of the twentieth century. -/
def newDate (year : ℤ) (month : ℕ) (date : ℤ) : Option ℤ :=
  timeClip (z.utc
    (makeDay (if 0 ≤ year ∧ year ≤ 99 then 1900 + year else year) month date * msPerDay))

/-- `localDate`. The first step keeps the time of day that `new Date(0)` has in the zone, and the
second goes back to midnight. -/
def localDate (year : ℤ) (month0 : ℕ) (day : ℤ) : Option ℤ := do
  let date ← timeClip
    (z.utc (makeDay year month0 day * msPerDay + z.localTime 0 % msPerDay))
  timeClip (z.utc (z.localDay date * msPerDay))

/-- `fmt` of `dateRanges.ts`. -/
def fmt (date : Option ℤ) : List Char :=
  match date with
  | some t => dayText (z.getFullYear t) (z.getMonth t + 1) (z.getDate t)
  | none => "NaN-NaN-NaN".toList

/-- The zone has the two local times of a day that `localDate` goes through. -/
def HasDay (day : NaiveDate) : Prop :=
  z.localDay (z.utc (day * msPerDay + z.localTime 0 % msPerDay)) = day ∧
    z.localDay (z.utc (day * msPerDay)) = day

end TimeZone

/-! ### Days -/

theorem year_bounds (day : NaiveDate) :
    NaiveDate.monthStart (NaiveDate.year day) 1 ≤ day ∧
      day < NaiveDate.monthStart (NaiveDate.year day + 1) 1 := by
  rw [NaiveDate.monthStart, NaiveDate.monthStart, Gregorian.firstOfMonth_one,
    Gregorian.firstOfMonth_one, sub_le_iff_le_add, lt_sub_iff_add_lt]
  exact Gregorian.year_eq_iff.1 rfl

theorem one_le_month (day : NaiveDate) : 1 ≤ NaiveDate.month day :=
  (Gregorian.month_spec (day + NaiveDate.epoch)).1

theorem month_le (day : NaiveDate) : NaiveDate.month day ≤ 12 :=
  (Gregorian.month_spec (day + NaiveDate.epoch)).2.1

theorem day_le (day : NaiveDate) : NaiveDate.day day ≤ 31 :=
  (NaiveDate.day_le_daysInMonth day).trans (daysInMonth_le (one_le_month day) (month_le day))

/-- A day is known from its year, its month and its day of the month. -/
theorem eq_of_calendar_eq {day day' : NaiveDate} (hyear : NaiveDate.year day = NaiveDate.year day')
    (hmonth : NaiveDate.month day = NaiveDate.month day')
    (hday : NaiveDate.day day = NaiveDate.day day') : day = day' := by
  have h := NaiveDate.day_eq hyear hmonth
  have h' := NaiveDate.day_eq (d := day') rfl rfl
  rw [hday, h'] at h
  exact (sub_left_injective (add_left_injective 1 h)).symm

/-- The months of a year, and the January after them. -/
theorem makeDay_eq (year : ℤ) {month : ℕ} (h : month ≤ 12) (date : ℤ) :
    makeDay year month date = NaiveDate.monthStart year (month + 1) + (date - 1) := by
  rw [makeDay]
  rcases Nat.lt_or_eq_of_le h with hlt | rfl
  · rw [Nat.div_eq_of_lt hlt, Nat.mod_eq_of_lt hlt, Nat.cast_zero, add_zero]
  · rw [NaiveDate.monthStart_thirteen]
    rfl

theorem monthStart_mono {y y' : ℤ} (h : y ≤ y') :
    NaiveDate.monthStart y 1 ≤ NaiveDate.monthStart y' 1 := by
  rw [NaiveDate.monthStart, NaiveDate.monthStart, Gregorian.firstOfMonth_one,
    Gregorian.firstOfMonth_one]
  exact sub_le_sub_right (Gregorian.firstOfYear_strictMono.monotone h) NaiveDate.epoch

theorem timeClip_of_day {day : ℤ} (hlow : -90000000 ≤ day) (hhigh : day ≤ 90000000)
    {t : ℤ} (h : |t - day * msPerDay| < 2 * msPerDay) : timeClip t = some t := by
  rw [abs_lt, msPerDay] at h
  refine if_pos (abs_le.2 ⟨?_, ?_⟩) <;> omega

/-! ### Days as text -/

theorem padStart_natCast {w n : ℕ} (h : n < 10 ^ (w + 1)) :
    padStart (w + 1) n = padded (w + 1) n := by
  simp only [padStart, toList_toString_natCast]
  exact (padded_eq_replicate_append h).symm

/-- A day of a year with at most four digits is written `YYYY-MM-DD`. -/
theorem dayText_natCast {y m d : ℕ} (hy : y ≤ 9999) (hm : m < 100) (hd : d < 100) :
    dayText y m d = dateText y m d := by
  rw [dayText, padStart_natCast (w := 3) (Nat.lt_succ_of_le hy), padStart_natCast (w := 1) hm,
    padStart_natCast (w := 1) hd]
  rfl

theorem count_hyphen_padded (w n : ℕ) : (padded w n).count '-' = 0 :=
  List.count_eq_zero.2 fun h ↦ absurd (isDigit_of_mem_padded h) (by decide)

/-- The text of a year is longer than four digits or has a hyphen of its own where the year has not
at most four digits. -/
theorem four_lt_length_or_hyphen {y : ℤ} (hy : ¬(0 ≤ y ∧ y ≤ 9999)) :
    4 < (padStart 4 y).length ∨ 1 ≤ (padStart 4 y).count '-' := by
  rw [padStart]
  cases y with
  | ofNat n =>
    have hlarge : 10 ^ 4 ≤ n := by
      rw [Int.ofNat_eq_natCast] at hy
      omega
    have hlength : ¬(Nat.toDigits 10 n).length ≤ 4 := by
      rw [Nat.length_toDigits_le_iff (by decide) (by decide)]
      exact not_lt.2 hlarge
    left
    rw [toList_toString_ofNat, List.length_append]
    omega
  | negSucc n =>
    right
    rw [toList_toString_negSucc, List.count_append, List.count_cons_self]
    omega

/-- A day that is written `YYYY-MM-DD` has a year with at most four digits. -/
theorem year_of_dayText {y : ℤ} {m d : ℕ} (hm : m < 100) (hd : d < 100) {s : List Char}
    (hlength : s.length ≤ 10) (hcount : s.count '-' ≤ 2) (h : dayText y m d = s) :
    0 ≤ y ∧ y ≤ 9999 := by
  by_contra hy
  subst h
  rw [dayText, padStart_natCast (w := 1) hm, padStart_natCast (w := 1) hd] at hlength hcount
  simp only [List.length_append, List.length_cons, length_padded, List.count_append,
    List.count_cons_self, count_hyphen_padded] at hlength hcount
  have hyear := four_lt_length_or_hyphen hy
  omega

theorem isDay_calendar {day : NaiveDate}
    (h : 0 ≤ NaiveDate.year day ∧ NaiveDate.year day ≤ 9999) :
    IsDay (NaiveDate.year day).toNat (NaiveDate.month day) (NaiveDate.day day) where
  year_le := by omega
  one_le_month := one_le_month day
  month_le := month_le day
  one_le_day := NaiveDate.one_le_day day
  day_le := by
    rw [Int.toNat_of_nonneg h.1]
    exact NaiveDate.day_le_daysInMonth day

theorem calendarText_eq {day : NaiveDate}
    (h : 0 ≤ NaiveDate.year day ∧ NaiveDate.year day ≤ 9999) :
    calendarText day =
      dateText (NaiveDate.year day).toNat (NaiveDate.month day) (NaiveDate.day day) := by
  have hday := isDay_calendar h
  rw [calendarText, ← dayText_natCast hday.year_le (hday.month_le.trans_lt (by decide))
    ((day_le day).trans_lt (by decide)), Int.toNat_of_nonneg h.1]

theorem year_of_calendarText {day : NaiveDate} {s : List Char} (hlength : s.length ≤ 10)
    (hcount : s.count '-' ≤ 2) (h : calendarText day = s) :
    0 ≤ NaiveDate.year day ∧ NaiveDate.year day ≤ 9999 :=
  year_of_dayText ((month_le day).trans_lt (by decide)) ((day_le day).trans_lt (by decide))
    hlength hcount h

theorem length_dateText (y m d : ℕ) : (dateText y m d).length = 10 := by
  simp [dateText, windowText]

theorem count_hyphen_dateText (y m d : ℕ) : (dateText y m d).count '-' = 2 := by
  simp only [dateText, windowText, List.count_append, List.count_cons_self, count_hyphen_padded]

/-- **A day is known from its text**, in the years with at most four digits. -/
theorem calendarText_inj {day day' : NaiveDate}
    (h : 0 ≤ NaiveDate.year day ∧ NaiveDate.year day ≤ 9999) :
    calendarText day' = calendarText day ↔ day' = day := by
  refine ⟨fun htext ↦ ?_, fun hday ↦ hday ▸ rfl⟩
  rw [calendarText_eq h] at htext
  have h' := year_of_calendarText (length_dateText _ _ _).le (count_hyphen_dateText _ _ _).le htext
  rw [calendarText_eq h'] at htext
  have hparse := parseDay_dateText (isDay_calendar h')
  rw [htext, parseDay_dateText (isDay_calendar h), Option.some.injEq, Prod.mk.injEq,
    Prod.mk.injEq] at hparse
  obtain ⟨hyear, hmonth, hday⟩ := hparse
  exact (eq_of_calendar_eq (by omega) hmonth hday).symm

/-- In the years with at most four digits an ISO text starts with its day. -/
theorem take_toISOString {t : ℤ} (h : 0 ≤ NaiveDate.year (t / msPerDay) ∧
    NaiveDate.year (t / msPerDay) ≤ 9999) :
    (toISOString t).take 10 = calendarText (t / msPerDay) := by
  obtain ⟨rest, hrest⟩ : ∃ rest, toISOString t = calendarText (t / msPerDay) ++ rest := by
    simp only [toISOString, if_pos h, calendarText_eq h, dateText, windowText, List.append_assoc,
      List.cons_append]
    exact ⟨_, rfl⟩
  rw [hrest, calendarText_eq h]
  exact List.take_left' (length_dateText _ _ _)

/-- In the other years it starts with a sign. -/
theorem take_toISOString_of_not {t : ℤ} (h : ¬(0 ≤ NaiveDate.year (t / msPerDay) ∧
    NaiveDate.year (t / msPerDay) ≤ 9999)) :
    ∃ sign ∈ ['-', '+'], (toISOString t).take 10 =
      sign :: (padded 6 (NaiveDate.year (t / msPerDay)).natAbs ++
        '-' :: padded 2 (NaiveDate.month (t / msPerDay))) := by
  obtain ⟨sign, hsign, rest, hrest⟩ : ∃ sign ∈ ['-', '+'], ∃ rest, toISOString t =
      sign :: (padded 6 (NaiveDate.year (t / msPerDay)).natAbs ++
        '-' :: padded 2 (NaiveDate.month (t / msPerDay))) ++ rest := by
    simp only [toISOString, if_neg h, List.append_assoc, List.cons_append]
    refine ⟨_, ?_, _, rfl⟩
    split <;> simp
  rw [hrest]
  exact ⟨sign, hsign, List.take_left' (by simp)⟩

/-- **An ISO text starts with a day** that is written with at most four digits for the year exactly
if it is that day in UTC. -/
theorem take_toISOString_eq_iff {t : ℤ} {day : NaiveDate} :
    (toISOString t).take 10 = calendarText day ↔
      t / msPerDay = day ∧ 0 ≤ NaiveDate.year day ∧ NaiveDate.year day ≤ 9999 := by
  constructor
  · intro htext
    by_cases h : 0 ≤ NaiveDate.year (t / msPerDay) ∧ NaiveDate.year (t / msPerDay) ≤ 9999
    · rw [take_toISOString h, eq_comm, calendarText_inj h] at htext
      exact ⟨htext.symm, htext ▸ h⟩
    · obtain ⟨sign, hsign, hsigned⟩ := take_toISOString_of_not h
      rw [hsigned] at htext
      have hcount : (sign :: (padded 6 (NaiveDate.year (t / msPerDay)).natAbs ++
          '-' :: padded 2 (NaiveDate.month (t / msPerDay)))).count '-' ≤ 2 := by
        rw [List.count_cons, List.count_append, List.count_cons_self, count_hyphen_padded,
          count_hyphen_padded]
        split <;> decide
      have hyear := year_of_calendarText (by simp) hcount htext.symm
      rw [calendarText_eq hyear, dateText, windowText] at htext
      -- the text of the year starts with a digit
      obtain ⟨c, digits, hdigits⟩ : ∃ c digits, padded 4 (NaiveDate.year day).toNat = c :: digits :=
        List.exists_cons_of_length_pos (by simp)
      rw [hdigits, List.cons_append, List.cons.injEq] at htext
      have hdigit : sign.isDigit :=
        htext.1 ▸ isDigit_of_mem_padded (hdigits ▸ List.mem_cons_self)
      have hall : ∀ sign ∈ ['-', '+'], ¬sign.isDigit := by decide
      exact absurd hdigit (hall sign hsign)
  · rintro ⟨rfl, h⟩
    exact take_toISOString h

namespace TimeZone

variable (z : TimeZone)

/-- A local time is read back on its own day or on a later one. -/
theorem le_localDay_utc {day time : ℤ} (h : 0 ≤ time) :
    day ≤ z.localDay (z.utc (day * msPerDay + time)) := by
  have hle := z.le_local_utc (day * msPerDay + time)
  rw [localDay, localTime, Int.le_ediv_iff_mul_le (by decide)]
  omega

/-- A midnight is on its own day in UTC unless the zone is ahead. -/
theorem utc_div_eq_iff (day : ℤ) :
    z.utc (day * msPerDay) / msPerDay = day ↔ day * msPerDay ≤ z.utc (day * msPerDay) := by
  have hnear := abs_lt.1 (z.utc_near (day * msPerDay))
  rw [msPerDay] at hnear ⊢
  omega

/-- **`localDate` makes a date of the day asked for**, unless the zone skips it. -/
theorem localDay_localDate {year : ℤ} {month0 : ℕ} {day t : ℤ}
    (h : z.localDate year month0 day = some t) :
    z.localDay t = makeDay year month0 day ↔ z.HasDay (makeDay year month0 day) := by
  obtain ⟨date, hdate, ht⟩ := Option.bind_eq_some_iff.1 h
  obtain ⟨-, hdate⟩ := Option.ite_none_right_eq_some.1 hdate
  obtain ⟨-, ht⟩ := Option.ite_none_right_eq_some.1 ht
  obtain rfl := Option.some.inj hdate
  obtain rfl := Option.some.inj ht
  constructor
  · intro hday
    have htime : 0 ≤ z.localTime 0 % msPerDay := Int.emod_nonneg _ (by decide)
    have hfirst : makeDay year month0 day ≤ _ := z.le_localDay_utc htime
    have hsecond := @le_localDay_utc z (z.localDay
      (z.utc (makeDay year month0 day * msPerDay + z.localTime 0 % msPerDay))) 0 le_rfl
    rw [add_zero, hday] at hsecond
    have hsame := le_antisymm hsecond hfirst
    rw [hsame] at hday
    exact ⟨hsame, hday⟩
  · rintro ⟨htime, hmidnight⟩
    rw [htime, hmidnight]

theorem getMonth_add_one (t : ℤ) : z.getMonth t + 1 = NaiveDate.month (z.localDay t) :=
  Nat.sub_add_cancel (one_le_month (z.localDay t))

theorem fmt_some (t : ℤ) : z.fmt (some t) = calendarText (z.localDay t) := by
  rw [calendarText, ← getMonth_add_one, Nat.cast_succ]
  rfl

end TimeZone

end Sumurai.Frontend
