import Mathlib.Data.Rat.Floor
import Sumurai.Foundations.Words
import Sumurai.Frontend.MonthRanges
import Sumurai.Models.Months

/-!
# Date keys

`DashboardCalculator` calculates with the keys `YYYY-MM-DD` of days: it makes a date of the key, at
midnight of the browser, changes the date, and writes a key again (`addDays`, `addMonthsClamped`).
Days are counted in milliseconds from midnight to midnight (`daysBetween`). The year of a key is not
padded, so the keys of the years from 1000 to 9999 are those of the calendar (`HasKey`).

A date is set three times at most after its midnight is read, so a zone whose clock changes by less
than six hours (`IsSteady`) never leaves the day, and the keys are those of the calendar
(`addDays_calendarText`, `addMonthsClamped_calendarText`, `daysBetween_calendarText`).
-/

namespace Sumurai.Frontend

open NaiveDate Text

/-! ### The calculations -/

/-- `ToIntegerOrInfinity` of a finite number. -/
def truncate (q : ℚ) : ℤ :=
  if 0 ≤ q then ⌊q⌋ else ⌈q⌉

/-- `Math.round(n / d)`. -/
def roundDiv (n d : ℤ) : ℤ :=
  (2 * n + d) / (2 * d)

/-- What `/^(\d{4})-(\d{2})-(\d{2})/` matches. -/
def matchDay (value : List Char) : Option (List Char) :=
  let key := value.take 10
  let year := key.take 4
  let month := (key.drop 5).take 2
  let day := key.drop 8
  if key = year ++ '-' :: (month ++ '-' :: day) ∧ day.length = 2 ∧
      (year ++ (month ++ day)).all Char.isDigit then some key
  else none

namespace TimeZone

variable (z : TimeZone)

/-- `new Date(year, month, date)`, for months of any sign. -/
def dateOf (year month date : ℤ) : Option ℤ :=
  let fullYear := if 0 ≤ year ∧ year ≤ 99 then 1900 + year else year
  timeClip (z.utc (dayIn (12 * fullYear + month) date * msPerDay))

/-- `setDate`. The time of day stays. -/
def setDate (t date : ℤ) : Option ℤ :=
  timeClip (z.utc (dayIn (12 * z.getFullYear t + z.getMonth t) date * msPerDay +
    z.localTime t % msPerDay))

/-- `setMonth`. -/
def setMonth (t month : ℤ) : Option ℤ :=
  timeClip (z.utc (dayIn (12 * z.getFullYear t + month) (z.getDate t) * msPerDay +
    z.localTime t % msPerDay))

/-- `toDateKey` of a date. An invalid one has the empty key. -/
def toDateKey (date : Option ℤ) : List Char :=
  match date with
  | some t => dayTemplate (z.getFullYear t) (z.getMonth t + 1 : ℤ) (z.getDate t)
  | none => []

/-- `toDateKey` of a text. `parse` is how `new Date` reads one that does not start with a day. -/
def toDateKeyOf (parse : List Char → Option ℤ) (value : List Char) : List Char :=
  match matchDay value with
  | some key => key
  | none => z.toDateKey (parse value)

/-- `fromDateKey`. The parts of a key are digits, and an empty part is zero. -/
def fromDateKey (value : List Char) : Option ℤ :=
  match (value.splitOn '-').map fun part ↦ (Nat.ofDigitChars 10 part 0 : ℤ) with
  | year :: month :: day :: _ => z.dateOf year (month - 1) day
  | _ => none

/-- `daysBetween`, unless it is `NaN`. -/
def daysBetween (start stop : List Char) : Option ℤ := do
  let startDate ← z.fromDateKey start
  let endDate ← z.fromDateKey stop
  return roundDiv (endDate - startDate) msPerDay

/-- `addDays`. -/
def addDays (value : List Char) (days : ℚ) : List Char :=
  z.toDateKey do
    let date ← z.fromDateKey value
    z.setDate date (truncate ((z.getDate date : ℚ) + days))

/-- `addMonthsClamped`. -/
def addMonthsClamped (value : List Char) (months : ℕ) : List Char :=
  z.toDateKey do
    let date ← z.fromDateKey value
    let originalDay := z.getDate date
    let date ← z.setDate date 1
    let date ← z.setMonth date (z.getMonth date + months)
    let lastDay ← z.dateOf (z.getFullYear date) (z.getMonth date + 1) 0
    z.setDate date (min originalDay (z.getDate lastDay) : ℕ)

/-- Clocks are set forward and back by a few hours: a local time is read with an offset of the zone,
and any two of these are less than six hours apart. -/
structure IsSteady : Prop where
  utc_eq : ∀ t, ∃ u, z.utc t = t - z.offset u
  offset_lt : ∀ t u, z.offset t < z.offset u + 21600000

end TimeZone

/-- The key of a day is its text. -/
structure HasKey (day : NaiveDate) : Prop where
  le_year : 1000 ≤ year day
  year_le : year day ≤ 9999

/-! ### Keys and days -/

theorem HasKey.year_range {day : NaiveDate} (h : HasKey day) : 0 ≤ year day ∧ year day ≤ 9999 :=
  ⟨(by decide : (0 : ℤ) ≤ 1000).trans h.le_year, h.year_le⟩

/-- The text of a number of four digits. -/
theorem toString_eq_padded {y : ℕ} (hle : 1000 ≤ y) (hlt : y ≤ 9999) :
    (toString (y : ℤ)).toList = padded 4 y := by
  rw [toList_toString_natCast]
  exact toDigits_eq_padded hle (Nat.lt_succ_of_le hlt)

theorem HasKey.calendarText_eq {day : NaiveDate} (h : HasKey day) :
    calendarText day = dateText (year day).toNat (NaiveDate.month day) (NaiveDate.day day) :=
  Frontend.calendarText_eq h.year_range

/-- The key that is written of a day. -/
theorem HasKey.dayTemplate_eq {day : NaiveDate} (h : HasKey day) :
    dayTemplate (year day) (NaiveDate.month day) (NaiveDate.day day) = calendarText day := by
  obtain ⟨y, hy⟩ := Int.eq_ofNat_of_zero_le h.year_range.1
  have hyear : 1000 ≤ y ∧ y ≤ 9999 := by
    have hle := h.le_year
    have hlt := h.year_le
    rw [hy] at hle hlt
    exact ⟨by exact_mod_cast hle, by exact_mod_cast hlt⟩
  rw [h.calendarText_eq, hy, Int.toNat_natCast, dayTemplate, toString_eq_padded hyear.1 hyear.2,
    padStart2_natCast ((month_le day).trans_lt (by decide)),
    padStart2_natCast ((day_le day).trans_lt (by decide))]
  rfl

/-- A key at the start of a text is matched. -/
theorem HasKey.matchDay_append {day : NaiveDate} (h : HasKey day) (rest : List Char) :
    matchDay (calendarText day ++ rest) = some (calendarText day) := by
  obtain ⟨hyear, hmonth, hday⟩ :=
    dateText_parts (year day).toNat (NaiveDate.month day) (NaiveDate.day day)
  have hkey : (calendarText day ++ rest).take 10 = calendarText day := by
    rw [h.calendarText_eq]
    exact List.take_left' (length_dateText _ _ _)
  have hdigits : (padded 4 (year day).toNat ++ (padded 2 (NaiveDate.month day) ++
      padded 2 (NaiveDate.day day))).all Char.isDigit := by
    simp only [List.all_append, Bool.and_eq_true, List.all_eq_true]
    exact ⟨fun c hc ↦ isDigit_of_mem_padded hc, fun c hc ↦ isDigit_of_mem_padded hc,
      fun c hc ↦ isDigit_of_mem_padded hc⟩
  simp only [matchDay, hkey]
  rw [h.calendarText_eq, hyear, hmonth, hday]
  exact if_pos ⟨rfl, length_padded 2 _, hdigits⟩

/-- The parts of a key. -/
theorem HasKey.splitOn_calendarText {day : NaiveDate} (h : HasKey day) :
    (calendarText day).splitOn '-' =
      [padded 4 (year day).toNat, padded 2 (NaiveDate.month day),
        padded 2 (NaiveDate.day day)] := by
  have hparts : calendarText day = ['-'].intercalate
      [padded 4 (year day).toNat, padded 2 (NaiveDate.month day),
        padded 2 (NaiveDate.day day)] := by
    rw [h.calendarText_eq]
    rfl
  rw [hparts, List.splitOn_eq_splitOnP]
  refine splitOnP_intercalate (p := (· == '-')) rfl (List.cons_ne_nil _ _)
    fun part hpart c hc ↦ ?_
  have hdigit : c.isDigit := by
    simp only [List.mem_cons, List.not_mem_nil, or_false] at hpart
    obtain rfl | rfl | rfl := hpart
    · exact isDigit_of_mem_padded hc
    · exact isDigit_of_mem_padded hc
    · exact isDigit_of_mem_padded hc
  have hne : c ≠ '-' := by
    rintro rfl
    exact absurd hdigit (by decide)
  exact beq_false_of_ne hne

/-- **The order of the keys** is that of the days. -/
theorem calendarText_lt_iff {a b : NaiveDate} (ha : HasKey a) (hb : HasKey b) :
    calendarText a < calendarText b ↔ a < b := by
  have hya := ha.le_year
  have hyb := hb.le_year
  have hya' := ha.year_le
  have hyb' := hb.year_le
  have hma := one_le_month a
  have hmb := one_le_month b
  have hma' := month_le a
  have hmb' := month_le b
  rw [ha.calendarText_eq, hb.calendarText_eq,
    dateText_lt_iff (by omega) (by omega) (by omega) (by omega)
      ((day_le a).trans_lt (by decide)) ((day_le b).trans_lt (by decide)),
    lt_iff_monthIndex, monthIndex, monthIndex]
  omega

/-- Whether a day has a key depends on its month. -/
theorem hasKey_iff_monthIndex {day : NaiveDate} :
    HasKey day ↔ 12000 ≤ monthIndex day ∧ monthIndex day < 120000 := by
  have hone := one_le_month day
  have hle := month_le day
  rw [monthIndex]
  constructor
  · intro h
    have hyear := h.le_year
    have hyear' := h.year_le
    omega
  · intro h
    exact ⟨by omega, by omega⟩

theorem year_mono {a b : NaiveDate} (h : a ≤ b) : year a ≤ year b := by
  have hlow := (year_bounds a).1.trans_lt (h.trans_lt (year_bounds b).2)
  rw [monthStart, monthStart, Gregorian.firstOfMonth_one, Gregorian.firstOfMonth_one] at hlow
  have hlt := Gregorian.firstOfYear_strictMono.lt_iff_lt.1 ((sub_lt_sub_iff_right epoch).1 hlow)
  omega

/-- The years that a number of days reaches. -/
theorem year_add_le (a : NaiveDate) {n c : ℤ} (hc : 0 ≤ c) (hn : n ≤ 365 * c) :
    year (a + n) ≤ year a + c := by
  have hyear : Gregorian.firstOfYear (year a + 1) + 365 * c ≤
      Gregorian.firstOfYear (year a + c + 1) := by
    simp only [Gregorian.firstOfYear]
    omega
  have hlow := (year_bounds (a + n)).1
  have hhigh := (year_bounds a).2
  simp only [monthStart, Gregorian.firstOfMonth_one] at hlow hhigh
  have hlt : Gregorian.firstOfYear (year (a + n)) < Gregorian.firstOfYear (year a + c + 1) := by
    lia
  have hle := Gregorian.firstOfYear_strictMono.lt_iff_lt.1 hlt
  omega

/-! ### Dates in a zone with a steady clock -/

/-- An instant of a day, at most `w` changes of the clock after midnight. -/
structure TimeZone.IsOn (z : TimeZone) (day : ℤ) (w : ℕ) (t : ℤ) : Prop where
  le : day * msPerDay ≤ z.localTime t
  le_add : z.localTime t ≤ day * msPerDay + w * 21599999

namespace TimeZone

variable {z : TimeZone}

theorem IsOn.localDay {day : ℤ} {w : ℕ} {t : ℤ} (h : z.IsOn day w t) (hw : w ≤ 4) :
    z.localDay t = day := by
  have hle := h.le
  have hadd := h.le_add
  have hdiv : z.localTime t / msPerDay = day := by
    rw [msPerDay] at hle hadd ⊢
    omega
  exact hdiv

/-- The time of day is the time since midnight. -/
theorem IsOn.time {day : ℤ} {w : ℕ} {t : ℤ} (h : z.IsOn day w t) (hw : w ≤ 4) :
    0 ≤ z.localTime t % msPerDay ∧ z.localTime t % msPerDay ≤ w * 21599999 := by
  have hle := h.le
  have hadd := h.le_add
  have hdiv : z.localTime t / msPerDay = day := h.localDay hw
  rw [Int.emod_def, hdiv, mul_comm]
  omega

/-- **A local time is read on its day**, one change of the clock later at most. -/
theorem IsSteady.isOn_utc (hz : z.IsSteady) {day time : ℤ} {w : ℕ} (hpos : 0 ≤ time)
    (htime : time ≤ w * 21599999) : z.IsOn day (w + 1) (z.utc (day * msPerDay + time)) := by
  obtain ⟨u, hu⟩ := hz.utc_eq (day * msPerDay + time)
  have hle := z.le_local_utc (day * msPerDay + time)
  have hlt := hz.offset_lt (z.utc (day * msPerDay + time)) u
  constructor
  · rw [localTime]
    omega
  · rw [localTime, hu] at *
    push_cast
    omega

/-- A date is made of a local time of a day that dates can hold. -/
theorem IsSteady.exists_timeClip (hz : z.IsSteady) {day time : ℤ} {w : ℕ} (hday : HasKey day)
    (hpos : 0 ≤ time) (htime : time ≤ w * 21599999) (hw : w ≤ 3) :
    ∃ t, timeClip (z.utc (day * msPerDay + time)) = some t ∧ z.IsOn day (w + 1) t := by
  have hbounds := bounds_of_year hday.year_range
  have hnear := abs_lt.1 (z.utc_near (day * msPerDay + time))
  refine ⟨_, timeClip_of_day hbounds.1 hbounds.2 (abs_lt.2 ?_), hz.isOn_utc hpos htime⟩
  rw [msPerDay] at hnear ⊢
  omega

/-- The month of a date, as the setters name it. -/
theorem IsOn.month {day : ℤ} {w : ℕ} {t : ℤ} (h : z.IsOn day w t) (hw : w ≤ 4) :
    12 * z.getFullYear t + z.getMonth t = monthIndex day := by
  rw [getFullYear, getMonth, h.localDay hw, monthIndex]

theorem IsSteady.exists_dateOf (hz : z.IsSteady) (year month date : ℤ)
    (hday : HasKey (dayIn (12 * year + month) date)) (hyear : 100 ≤ year) :
    ∃ t, z.dateOf year month date = some t ∧ z.IsOn (dayIn (12 * year + month) date) 1 t := by
  obtain ⟨t, ht, hon⟩ := hz.exists_timeClip (w := 0) hday le_rfl le_rfl (by decide)
  rw [add_zero] at ht
  refine ⟨t, ?_, hon⟩
  rw [dateOf, if_neg (by omega), ht]

theorem IsSteady.exists_setDate (hz : z.IsSteady) {day : ℤ} {w : ℕ} {t : ℤ}
    (h : z.IsOn day w t) (hw : w ≤ 3) (date : ℤ)
    (hday : HasKey (dayIn (monthIndex day) date)) :
    ∃ t', z.setDate t date = some t' ∧ z.IsOn (dayIn (monthIndex day) date) (w + 1) t' := by
  obtain ⟨hpos, htime⟩ := h.time (by omega)
  rw [setDate, h.month (by omega)]
  exact hz.exists_timeClip hday hpos htime hw

theorem IsSteady.exists_setMonth (hz : z.IsSteady) {day : ℤ} {w : ℕ} {t : ℤ}
    (h : z.IsOn day w t) (hw : w ≤ 3) {k : ℕ}
    (hday : HasKey (dayIn (monthIndex day + k) (NaiveDate.day day))) :
    ∃ t', z.setMonth t (z.getMonth t + k) = some t' ∧
      z.IsOn (dayIn (monthIndex day + k) (NaiveDate.day day)) (w + 1) t' := by
  obtain ⟨hpos, htime⟩ := h.time (by omega)
  rw [setMonth, ← add_assoc, h.month (by omega), getDate, h.localDay (by omega)]
  exact hz.exists_timeClip hday hpos htime hw

/-- The last day of a month is the day before the first one of the next month. -/
theorem IsSteady.exists_lastOfMonth (hz : z.IsSteady) {day : ℤ} {w : ℕ} {t : ℤ}
    (h : z.IsOn day w t) (hw : w ≤ 4)
    (hday : HasKey (dayIn (monthIndex day) (monthLength (monthIndex day)))) :
    ∃ t', z.dateOf (z.getFullYear t) (z.getMonth t + 1) 0 = some t' ∧
      z.getDate t' = monthLength (monthIndex day) := by
  have hbounds := hasKey_iff_monthIndex.1 hday
  rw [monthIndex_last] at hbounds
  have hmonth := h.month hw
  have hlt := z.getMonth_lt t
  have hend : dayIn (12 * z.getFullYear t + (z.getMonth t + 1)) 0 =
      dayIn (monthIndex day) (monthLength (monthIndex day)) := by
    rw [← add_assoc, hmonth, dayIn_succ_zero]
  obtain ⟨t', ht', hon⟩ := hz.exists_dateOf (z.getFullYear t) ((z.getMonth t : ℤ) + 1) 0
    (hend ▸ hday) (by omega)
  refine ⟨t', ht', ?_⟩
  rw [getDate, hon.localDay (by decide), hend, day_last]

/-! ### The calculations on keys -/

/-- The key of a date is that of its day. -/
theorem toDateKey_some {t : ℤ} (h : HasKey (z.localDay t)) :
    z.toDateKey (some t) = calendarText (z.localDay t) := by
  have hmonth : (z.getMonth t : ℤ) + 1 = (NaiveDate.month (z.localDay t) : ℕ) := by
    rw [← getMonth_add_one, Nat.cast_succ]
  rw [toDateKey, hmonth, getFullYear, getDate, h.dayTemplate_eq]

theorem IsOn.toDateKey {day : ℤ} {w : ℕ} {t : ℤ} (h : z.IsOn day w t) (hw : w ≤ 4)
    (hday : HasKey day) : z.toDateKey (some t) = calendarText day := by
  have hlocal := h.localDay hw
  rw [toDateKey_some (hlocal ▸ hday), hlocal]

/-- The date of a key. -/
theorem IsSteady.exists_fromDateKey (hz : z.IsSteady) {day : NaiveDate} (hday : HasKey day) :
    ∃ t, z.fromDateKey (calendarText day) = some t ∧ z.IsOn day 1 t := by
  have hle := hday.le_year
  have hlt := hday.year_le
  have hyear : ((year day).toNat : ℤ) = year day := Int.toNat_of_nonneg hday.year_range.1
  have hparts : ((calendarText day).splitOn '-').map
      (fun part ↦ (Nat.ofDigitChars 10 part 0 : ℤ)) =
        [year day, (NaiveDate.month day : ℤ), (NaiveDate.day day : ℤ)] := by
    rw [hday.splitOn_calendarText, List.map_cons, List.map_cons, List.map_cons, List.map_nil,
      ofDigitChars_padded (by omega), ofDigitChars_padded ((month_le day).trans_lt (by decide)),
      ofDigitChars_padded ((day_le day).trans_lt (by decide)), hyear]
  have hsame : dayIn (12 * year day + ((NaiveDate.month day : ℤ) - 1)) (NaiveDate.day day) =
      day := by
    rw [← Nat.cast_pred (one_le_month day)]
    exact dayIn_monthIndex day
  have hdate := hz.exists_dateOf (year day) ((NaiveDate.month day : ℤ) - 1)
    (NaiveDate.day day) (hsame.symm ▸ hday) (by omega)
  rw [fromDateKey, hparts]
  rwa [hsame] at hdate

/-- Days between keys are the days between the days. -/
theorem IsSteady.daysBetween_calendarText (hz : z.IsSteady) {a b : NaiveDate} (ha : HasKey a)
    (hb : HasKey b) : z.daysBetween (calendarText a) (calendarText b) = some (b - a) := by
  obtain ⟨s, hs, hona⟩ := hz.exists_fromDateKey ha
  obtain ⟨t, ht, honb⟩ := hz.exists_fromDateKey hb
  have hlow := hz.offset_lt s t
  have hhigh := hz.offset_lt t s
  have hround : roundDiv (t - s) msPerDay = b - a := by
    have hsa := hona.le
    have hsa' := hona.le_add
    have htb := honb.le
    have htb' := honb.le_add
    simp only [localTime, msPerDay] at hsa hsa' htb htb'
    rw [roundDiv, msPerDay]
    omega
  rw [daysBetween, hs, ht]
  exact congrArg some hround

/-- Going on by days. -/
theorem IsSteady.addDays_calendarText (hz : z.IsSteady) {a : NaiveDate} (ha : HasKey a) {days : ℚ}
    (hdays : 0 ≤ days) (hb : HasKey (a + ⌊days⌋)) :
    z.addDays (calendarText a) days = calendarText (a + ⌊days⌋) := by
  obtain ⟨t, ht, hon⟩ := hz.exists_fromDateKey ha
  have htruncate : truncate ((z.getDate t : ℚ) + days) = NaiveDate.day a + ⌊days⌋ := by
    rw [truncate, if_pos (add_nonneg (Nat.cast_nonneg _) hdays), Int.floor_natCast_add, getDate,
      hon.localDay (by decide)]
  have hsame : dayIn (monthIndex a) (NaiveDate.day a + ⌊days⌋) = a + ⌊days⌋ := by
    have hday := dayIn_monthIndex a
    simp only [dayIn] at hday ⊢
    lia
  obtain ⟨t', ht', hon'⟩ := hz.exists_setDate hon (by decide) _ (hsame.symm ▸ hb)
  rw [hsame] at hon'
  rw [addDays, ht, Option.bind_eq_bind, Option.bind_some, htruncate, ht',
    hon'.toDateKey (by decide) hb]

/-- Going on by months. -/
theorem IsSteady.addMonthsClamped_calendarText (hz : z.IsSteady) {a : NaiveDate} (ha : HasKey a)
    {k : ℕ} (hb : HasKey (addMonths k a)) :
    z.addMonthsClamped (calendarText a) k = calendarText (addMonths k a) := by
  have hstart := hasKey_iff_monthIndex.1 ha
  have hstop := hasKey_iff_monthIndex.1 hb
  rw [monthIndex_addMonths] at hstop
  obtain ⟨t₀, ht₀, hon₀⟩ := hz.exists_fromDateKey ha
  obtain ⟨t₁, ht₁, hon₁⟩ := hz.exists_setDate hon₀ (by decide) 1
    (hasKey_iff_monthIndex.2 (by rwa [monthIndex_first]))
  obtain ⟨t₂, ht₂, hon₂⟩ := hz.exists_setMonth hon₁ (k := k) (by decide)
    (hasKey_iff_monthIndex.2
      (by rwa [day_first, Nat.cast_one, monthIndex_first, monthIndex_first]))
  rw [monthIndex_first, day_first, Nat.cast_one] at hon₂
  obtain ⟨t₃, ht₃, hlast⟩ := hz.exists_lastOfMonth hon₂ (by decide)
    (hasKey_iff_monthIndex.2 (by rwa [monthIndex_last, monthIndex_first]))
  have hclamp : min (z.getDate t₀) (z.getDate t₃) =
      min (NaiveDate.day a) (monthLength (monthIndex a + k)) := by
    rw [hlast, getDate, hon₀.localDay (by decide), monthIndex_first]
  obtain ⟨t₄, ht₄, hon₄⟩ := hz.exists_setDate hon₂ (by decide)
    (min (NaiveDate.day a) (monthLength (monthIndex a + k)) : ℕ)
    (by rwa [monthIndex_first])
  rw [monthIndex_first] at hon₄
  simp only [addMonthsClamped, ht₀, ht₁, ht₂, ht₃, Option.bind_eq_bind, Option.bind_some, hclamp,
    ht₄]
  exact hon₄.toDateKey (by decide) hb

end TimeZone

end Sumurai.Frontend
