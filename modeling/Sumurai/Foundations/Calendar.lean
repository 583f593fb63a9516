import Mathlib.Data.Int.ConditionallyCompleteOrder
import Mathlib.Data.Int.SuccPred
import Mathlib.Order.Monotone.Basic

/-!
# The Gregorian calendar

Days of the proleptic Gregorian calendar, numbered from 1 January of the year 1 (day `0`) in both
directions. A day is read back as a year, a month and a day of the month by `year`, `month` and
`day`; the year comes from the length of the 400-year cycle, which gives it up to one.

What a computation over the days of a month needs is that they are one range of day numbers
(`mem_month_iff`): a day is in a month exactly if it is neither before the first of that month nor
on or after the first of the next one.
-/

namespace Gregorian

/-- Leap years. -/
def isLeap (y : ℤ) : Bool :=
  y % 4 = 0 && (y % 100 ≠ 0 || y % 400 = 0)

/-- The days of a year. -/
def yearLength (y : ℤ) : ℤ :=
  if isLeap y then 366 else 365

/-- The number of 1 January of a year. -/
def firstOfYear (y : ℤ) : ℤ :=
  365 * (y - 1) + (y - 1) / 4 - (y - 1) / 100 + (y - 1) / 400

theorem firstOfYear_succ (y : ℤ) : firstOfYear (y + 1) = firstOfYear y + yearLength y := by
  simp only [firstOfYear, yearLength, isLeap, Bool.and_eq_true, Bool.or_eq_true, decide_eq_true_eq]
  split <;> omega

theorem yearLength_pos (y : ℤ) : 0 < yearLength y := by
  rw [yearLength]
  split <;> decide

theorem firstOfYear_strictMono : StrictMono firstOfYear :=
  strictMono_int_of_lt_succ fun y ↦ by
    rw [firstOfYear_succ]
    exact lt_add_of_pos_right _ (yearLength_pos y)

/-! ### Years -/

/-- The year of a day. -/
def year (n : ℤ) : ℤ :=
  let y := 400 * n / 146097 + 1
  if firstOfYear (y + 1) ≤ n then y + 1 else y

theorem firstOfYear_year_le (n : ℤ) : firstOfYear (year n) ≤ n := by
  simp only [year]
  split
  · assumption
  · simp only [firstOfYear]
    omega

theorem lt_firstOfYear_year_succ (n : ℤ) : n < firstOfYear (year n + 1) := by
  simp only [year]
  split
  · simp only [firstOfYear]
    omega
  · rename_i h
    exact not_le.1 h

/-- The year of a day is the one whose days it is among. -/
theorem year_eq_iff {n y : ℤ} : year n = y ↔ firstOfYear y ≤ n ∧ n < firstOfYear (y + 1) := by
  constructor
  · rintro rfl
    exact ⟨firstOfYear_year_le n, lt_firstOfYear_year_succ n⟩
  · rintro ⟨hle, hlt⟩
    have h₁ : y < year n + 1 :=
      firstOfYear_strictMono.lt_iff_lt.1 (hle.trans_lt (lt_firstOfYear_year_succ n))
    have h₂ : year n < y + 1 :=
      firstOfYear_strictMono.lt_iff_lt.1 ((firstOfYear_year_le n).trans_lt hlt)
    omega

/-! ### Months -/

/-- The days of a year before a month. The month after December is the end of the year. -/
def daysBefore (leap : Bool) : ℕ → ℤ
  | 0 | 1 => 0
  | 2 => 31
  | 3 => 59 + leap.toInt
  | 4 => 90 + leap.toInt
  | 5 => 120 + leap.toInt
  | 6 => 151 + leap.toInt
  | 7 => 181 + leap.toInt
  | 8 => 212 + leap.toInt
  | 9 => 243 + leap.toInt
  | 10 => 273 + leap.toInt
  | 11 => 304 + leap.toInt
  | 12 => 334 + leap.toInt
  | _ => 365 + leap.toInt

theorem daysBefore_mono (leap : Bool) {a b : ℕ} (hab : a ≤ b) (hb : b ≤ 13) :
    daysBefore leap a ≤ daysBefore leap b := by
  have hall : ∀ leap, ∀ b < 14, ∀ a ≤ b, daysBefore leap a ≤ daysBefore leap b := by decide
  exact hall leap b (by omega) a hab

/-- The last of the first `m` months that a day of the year is not before. -/
def latestMonth (leap : Bool) (d : ℤ) : ℕ → ℕ
  | 0 => 1
  | m + 1 => if daysBefore leap (m + 1) ≤ d then m + 1 else latestMonth leap d m

theorem latestMonth_spec {leap : Bool} {d : ℤ} (hd : 0 ≤ d) {m : ℕ} (hm : 1 ≤ m)
    (hlt : d < daysBefore leap (m + 1)) :
    1 ≤ latestMonth leap d m ∧ latestMonth leap d m ≤ m ∧
      daysBefore leap (latestMonth leap d m) ≤ d ∧
        d < daysBefore leap (latestMonth leap d m + 1) := by
  induction m with
  | zero => exact absurd hm (by decide)
  | succ m ih =>
    rw [latestMonth]
    split
    · exact ⟨hm, le_rfl, ‹_›, hlt⟩
    · rename_i hnot
      have hpos : 1 ≤ m := by
        rcases m with - | m
        · exact absurd hd hnot
        · exact Nat.succ_pos m
      obtain ⟨hone, hle, hbefore, hafter⟩ := ih hpos (not_le.1 hnot)
      exact ⟨hone, hle.trans (Nat.le_succ m), hbefore, hafter⟩

/-- The number of the first day of a month. -/
def firstOfMonth (y : ℤ) (m : ℕ) : ℤ :=
  firstOfYear y + daysBefore (isLeap y) m

/-- The month of a day. -/
def month (n : ℤ) : ℕ :=
  latestMonth (isLeap (year n)) (n - firstOfYear (year n)) 12

/-- The day of the month of a day. -/
def day (n : ℤ) : ℤ :=
  n - firstOfMonth (year n) (month n) + 1

theorem firstOfMonth_one (y : ℤ) : firstOfMonth y 1 = firstOfYear y :=
  add_zero _

/-- The month after December is the January of the next year. -/
theorem firstOfMonth_thirteen (y : ℤ) : firstOfMonth y 13 = firstOfYear (y + 1) := by
  rw [firstOfYear_succ, firstOfMonth, yearLength]
  cases isLeap y <;> rfl

theorem month_spec (n : ℤ) :
    1 ≤ month n ∧ month n ≤ 12 ∧ firstOfMonth (year n) (month n) ≤ n ∧
      n < firstOfMonth (year n) (month n + 1) := by
  have hle := firstOfYear_year_le n
  have hlt := lt_firstOfYear_year_succ n
  rw [← firstOfMonth_thirteen, firstOfMonth] at hlt
  obtain ⟨hone, htwelve, hbefore, hafter⟩ := latestMonth_spec (sub_nonneg.2 hle)
    (by decide : 1 ≤ 12) (sub_lt_iff_lt_add'.2 hlt)
  exact ⟨hone, htwelve, le_sub_iff_add_le'.1 hbefore, sub_lt_iff_lt_add'.1 hafter⟩

/-- **The days of a month are one range.** -/
theorem mem_month_iff {n y : ℤ} {m : ℕ} (hone : 1 ≤ m) (htwelve : m ≤ 12) :
    (year n = y ∧ month n = m) ↔ firstOfMonth y m ≤ n ∧ n < firstOfMonth y (m + 1) := by
  constructor
  · rintro ⟨rfl, rfl⟩
    exact (month_spec n).2.2
  · rintro ⟨hle, hlt⟩
    have hyear : year n = y := by
      refine year_eq_iff.2 ⟨?_, ?_⟩
      · refine le_trans ?_ hle
        rw [← firstOfMonth_one]
        exact add_le_add_right (daysBefore_mono _ hone (by omega)) _
      · refine hlt.trans_le ?_
        rw [← firstOfMonth_thirteen]
        exact add_le_add_right (daysBefore_mono _ (by omega) le_rfl) _
    refine ⟨hyear, ?_⟩
    obtain ⟨-, hmonth, hbefore, hafter⟩ := month_spec n
    rw [hyear] at hbefore hafter
    -- of two different months the later one starts when the earlier one has ended
    by_contra hne
    rcases Nat.lt_or_gt_of_ne hne with hlater | hlater
    · have hstart : firstOfMonth y (month n + 1) ≤ firstOfMonth y m :=
        add_le_add_right (daysBefore_mono _ hlater (by omega)) _
      omega
    · have hstart : firstOfMonth y (m + 1) ≤ firstOfMonth y (month n) :=
        add_le_add_right (daysBefore_mono _ hlater (by omega)) _
      omega

theorem one_le_day (n : ℤ) : 1 ≤ day n := by
  have h := (month_spec n).2.2.1
  rw [day]
  omega

/-- The day of the month is at most the length of the month. -/
theorem day_le (n : ℤ) :
    day n ≤ firstOfMonth (year n) (month n + 1) - firstOfMonth (year n) (month n) := by
  have h := (month_spec n).2.2.2
  rw [day]
  omega

end Gregorian
