import Mathlib.Data.Int.Order.Basic
import Mathlib.Logic.Function.Iterate
import Sumurai.Models.Dates

/-!
# Months in a row

The months of the calendar as one row, the January of the year 0 first, so that the month `k` months
after the month `i` is `i + k`. A day is a month and a day of it (`dayIn_monthIndex`), and the days
of an earlier month are before those of a later one (`dayIn_lt`).

Going on from a day by whole months keeps the day of the month, unless the month is too short; then
it is the last of the month (`addMonths`). A day that was cut off stays cut off: going on month by
month keeps the day as well as going on at once exactly if no month on the way is shorter than what
the day is in the end (`iterate_addMonths_eq_iff`).
-/

namespace Sumurai

/-- The month of a day, counted through the years. -/
def monthIndex (d : NaiveDate) : ℤ :=
  12 * NaiveDate.year d + (NaiveDate.month d - 1 : ℕ)

namespace NaiveDate

/-- The number of days of a month. -/
def monthLength (i : ℤ) : ℕ :=
  daysInMonth (i / 12) ((i % 12).toNat + 1)

/-- A day of a month. -/
def dayIn (i d : ℤ) : NaiveDate :=
  monthStart (i / 12) ((i % 12).toNat + 1) + (d - 1)

/-- The same day of the month `k` months later, or the last day of that month. -/
def addMonths (k : ℕ) (day : NaiveDate) : NaiveDate :=
  dayIn (monthIndex day + k) (min (NaiveDate.day day) (monthLength (monthIndex day + k)) : ℕ)

/-! ### Days as days of months -/

theorem toNat_emod_twelve (i : ℤ) : (i % 12).toNat + 1 ≤ 12 := by
  omega

theorem monthIndex_eq_iff {day : NaiveDate} {i : ℤ} :
    monthIndex day = i ↔ year day = i / 12 ∧ month day = (i % 12).toNat + 1 := by
  have hone := (Gregorian.month_spec (day + epoch)).1
  have hle := (Gregorian.month_spec (day + epoch)).2.1
  rw [monthIndex, month]
  omega

theorem dayIn_monthLength (i : ℤ) :
    dayIn i (monthLength i + 1) = monthStart (i / 12) ((i % 12).toNat + 1 + 1) := by
  have hlt := monthStart_lt_succ (i / 12) (Nat.succ_pos _) (toNat_emod_twelve i)
  simp only [monthStart] at hlt
  rw [dayIn, monthLength, daysInMonth, Int.toNat_of_nonneg (by lia), monthStart, monthStart]
  lia

/-- The days of a month are one range. -/
theorem monthIndex_eq_iff_mem {day : NaiveDate} {i : ℤ} :
    monthIndex day = i ↔ dayIn i 1 ≤ day ∧ day < dayIn i (monthLength i + 1) := by
  rw [monthIndex_eq_iff, mem_month_iff (Nat.succ_pos _) (toNat_emod_twelve i),
    dayIn_monthLength, dayIn, sub_self, add_zero]

/-- The day after the last of a month is the first of the next one. -/
theorem dayIn_monthLength_succ (i : ℤ) : dayIn i (monthLength i + 1) = dayIn (i + 1) 1 := by
  rw [dayIn_monthLength, dayIn, sub_self, add_zero]
  obtain hlt | hlast : i % 12 < 11 ∨ i % 12 = 11 := by omega
  · have hyear : (i + 1) / 12 = i / 12 := by omega
    have hmonth : ((i + 1) % 12).toNat = (i % 12).toNat + 1 := by omega
    rw [hyear, hmonth]
  · have hyear : (i + 1) / 12 = i / 12 + 1 := by omega
    have hmonth : ((i + 1) % 12).toNat = 0 := by omega
    rw [hyear, hmonth, hlast]
    exact monthStart_thirteen (i / 12)

theorem monthIndex_dayIn {i d : ℤ} (hone : 1 ≤ d) (hle : d ≤ monthLength i) :
    monthIndex (dayIn i d) = i := by
  rw [monthIndex_eq_iff_mem]
  simp only [dayIn]
  lia

theorem day_dayIn {i d : ℤ} (hone : 1 ≤ d) (hle : d ≤ monthLength i) :
    (NaiveDate.day (dayIn i d) : ℤ) = d := by
  obtain ⟨hyear, hmonth⟩ := monthIndex_eq_iff.1 (monthIndex_dayIn hone hle)
  rw [day_eq hyear hmonth, dayIn]
  lia

/-- **A day is its month and its day of the month.** -/
theorem dayIn_monthIndex (day : NaiveDate) :
    dayIn (monthIndex day) (NaiveDate.day day) = day := by
  obtain ⟨hyear, hmonth⟩ := monthIndex_eq_iff.1 (rfl : monthIndex day = monthIndex day)
  rw [day_eq hyear hmonth, dayIn]
  lia

theorem day_le_monthLength (day : NaiveDate) :
    NaiveDate.day day ≤ monthLength (monthIndex day) := by
  obtain ⟨hyear, hmonth⟩ := monthIndex_eq_iff.1 (rfl : monthIndex day = monthIndex day)
  rw [monthLength, ← hyear, ← hmonth]
  exact day_le_daysInMonth day

theorem one_le_monthLength (i : ℤ) : 1 ≤ monthLength i := by
  have hlt := monthStart_lt_succ (i / 12) (Nat.succ_pos _) (toNat_emod_twelve i)
  simp only [monthStart] at hlt
  rw [monthLength, daysInMonth]
  lia

/-! ### The first and the last day of a month -/

@[simp]
theorem monthIndex_first (i : ℤ) : monthIndex (dayIn i 1) = i :=
  monthIndex_dayIn le_rfl (by exact_mod_cast one_le_monthLength i)

@[simp]
theorem day_first (i : ℤ) : NaiveDate.day (dayIn i 1) = 1 := by
  exact_mod_cast day_dayIn le_rfl (by exact_mod_cast one_le_monthLength i)

@[simp]
theorem monthIndex_last (i : ℤ) : monthIndex (dayIn i (monthLength i)) = i :=
  monthIndex_dayIn (by exact_mod_cast one_le_monthLength i) le_rfl

@[simp]
theorem day_last (i : ℤ) : NaiveDate.day (dayIn i (monthLength i)) = monthLength i := by
  exact_mod_cast day_dayIn (by exact_mod_cast one_le_monthLength i) le_rfl

/-- The day before the first of a month is the last one of the month before. -/
theorem dayIn_succ_zero (i : ℤ) : dayIn (i + 1) 0 = dayIn i (monthLength i) := by
  have hnext := dayIn_monthLength_succ i
  simp only [dayIn] at hnext ⊢
  lia

/-! ### Going on by months -/

section AddMonths

variable (k : ℕ) (day : NaiveDate)

theorem one_le_addMonths :
    1 ≤ min (NaiveDate.day day) (monthLength (monthIndex day + k)) :=
  le_min (one_le_day day) (one_le_monthLength _)

@[simp]
theorem monthIndex_addMonths : monthIndex (addMonths k day) = monthIndex day + k :=
  monthIndex_dayIn (by exact_mod_cast one_le_addMonths k day)
    (by exact_mod_cast min_le_right _ _)

@[simp]
theorem day_addMonths : NaiveDate.day (addMonths k day) =
    min (NaiveDate.day day) (monthLength (monthIndex day + k)) := by
  have hle : (min (NaiveDate.day day) (monthLength (monthIndex day + k)) : ℕ) ≤
      monthLength (monthIndex day + k) := min_le_right _ _
  exact Nat.cast_injective (R := ℤ)
    (day_dayIn (by exact_mod_cast one_le_addMonths k day) (by exact_mod_cast hle))

@[simp]
theorem addMonths_zero : addMonths 0 day = day := by
  have hle := day_le_monthLength day
  rw [addMonths, Nat.cast_zero, add_zero, min_eq_left hle, dayIn_monthIndex]

end AddMonths

/-- A day is known from its month and its day of the month. -/
theorem eq_iff_monthIndex {a b : NaiveDate} :
    a = b ↔ monthIndex a = monthIndex b ∧ NaiveDate.day a = NaiveDate.day b := by
  constructor
  · rintro rfl
    exact ⟨rfl, rfl⟩
  · rintro ⟨hmonth, hday⟩
    rw [← dayIn_monthIndex a, hmonth, hday, dayIn_monthIndex]

theorem dayIn_one_strictMono : StrictMono fun i ↦ dayIn i 1 :=
  strictMono_int_of_lt_succ fun i ↦ by
    have hpos := one_le_monthLength i
    rw [← dayIn_monthLength_succ]
    simp only [dayIn]
    lia

/-- The days of an earlier month are before those of a later one. -/
theorem lt_of_monthIndex_lt {a b : NaiveDate} (h : monthIndex a < monthIndex b) : a < b := by
  obtain ⟨-, hend⟩ := monthIndex_eq_iff_mem.1 (rfl : monthIndex a = _)
  obtain ⟨hstart, -⟩ := monthIndex_eq_iff_mem.1 (rfl : monthIndex b = _)
  rw [dayIn_monthLength_succ] at hend
  exact hend.trans_le ((dayIn_one_strictMono.monotone (Int.add_one_le_of_lt h)).trans hstart)

/-- **The order of days** is that of their months, and in a month that of the days of it. -/
theorem lt_iff_monthIndex {a b : NaiveDate} :
    a < b ↔ monthIndex a < monthIndex b ∨
      monthIndex a = monthIndex b ∧ NaiveDate.day a < NaiveDate.day b := by
  obtain hlt | heq | hgt := lt_trichotomy (monthIndex a) (monthIndex b)
  · exact iff_of_true (lt_of_monthIndex_lt hlt) (Or.inl hlt)
  · have ha := dayIn_monthIndex a
    have hb := dayIn_monthIndex b
    rw [heq, dayIn] at ha
    rw [dayIn] at hb
    rw [or_iff_right heq.not_lt, and_iff_right heq]
    lia
  · refine iff_of_false (lt_of_monthIndex_lt hgt).not_gt ?_
    rintro (hlt | ⟨heq, -⟩)
    · exact hgt.not_gt hlt
    · exact hgt.ne' heq

@[simp]
theorem monthIndex_iterate (k : ℕ) (day : NaiveDate) :
    monthIndex ((addMonths 1)^[k] day) = monthIndex day + k := by
  induction k with
  | zero => exact (add_zero _).symm
  | succ k ih =>
    rw [Function.iterate_succ_apply', monthIndex_addMonths, ih]
    lia

/-- Going on month by month, the day is cut off by every month on the way. -/
theorem le_day_iterate_iff {m k : ℕ} {day : NaiveDate} :
    m ≤ NaiveDate.day ((addMonths 1)^[k] day) ↔
      m ≤ NaiveDate.day day ∧ ∀ j < k, m ≤ monthLength (monthIndex day + (j + 1 : ℕ)) := by
  induction k with
  | zero => simp
  | succ k ih =>
    rw [Function.iterate_succ_apply', day_addMonths, le_min_iff, ih, monthIndex_iterate,
      Nat.forall_lt_succ_right, and_assoc, add_assoc]
    rfl

/-- **Going on month by month** keeps the day as well as going on at once exactly if no month on the
way is shorter than what the day is in the end. -/
theorem iterate_addMonths_eq_iff {k : ℕ} {day : NaiveDate} :
    (addMonths 1)^[k] day = addMonths k day ↔
      ∀ j : ℕ, 0 < j → j < k → min (NaiveDate.day day) (monthLength (monthIndex day + k)) ≤
        monthLength (monthIndex day + j) := by
  cases k with
  | zero => simp
  | succ k =>
    have hle (m : ℕ) := @le_day_iterate_iff m (k + 1) day
    rw [eq_iff_monthIndex, monthIndex_iterate, monthIndex_addMonths, and_iff_right rfl,
      day_addMonths]
    constructor
    · intro hday j hpos hj
      obtain ⟨-, hmonths⟩ := (hle _).1 hday.ge
      obtain ⟨j, rfl⟩ := Nat.exists_eq_succ_of_ne_zero hpos.ne'
      exact hmonths j ((Nat.lt_succ_self j).trans hj)
    · intro hmonths
      obtain ⟨hday, hcut⟩ := (hle _).1 le_rfl
      refine le_antisymm (le_min hday (hcut k (Nat.lt_succ_self k)))
        ((hle _).2 ⟨min_le_left _ _, fun j hj ↦ ?_⟩)
      obtain hlt | rfl := Nat.lt_or_eq_of_le (Nat.le_of_lt_succ hj)
      · exact hmonths (j + 1) (Nat.succ_pos j) (Nat.succ_lt_succ hlt)
      · exact min_le_right _ _

end NaiveDate

end Sumurai
