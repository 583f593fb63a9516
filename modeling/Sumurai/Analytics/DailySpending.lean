import Sumurai.Analytics.SpendingTotals

/-!
# The daily spending of a month

The handler of the daily spending takes a month as text, `YYYY-MM`, and hands two numbers on to the
loop over the days. The text is split at the hyphens and each part is parsed as a machine integer,
with no check that the month is one of the twelve, nor that the year has a next one in the calendar
of `chrono`.

`dailySpending_iff` says for which texts the answer is right. A month beyond the twelve is answered
with the 31 days of December, and from the last year of the calendar on the loop panics.
-/

namespace Sumurai

/-! ### Parsing -/

/-- Digits as a number of at most `max`. -/
def parseDigits (max : ℕ) (digits : List Char) : Option ℕ :=
  if digits ≠ [] ∧ digits.all Char.isDigit ∧ Nat.ofDigitChars 10 digits 0 ≤ max then
    some (Nat.ofDigitChars 10 digits 0)
  else none

/-- `str::parse::<u32>`. -/
def parseU32 : List Char → Option ℕ
  | '+' :: digits => parseDigits (2 ^ 32 - 1) digits
  | digits => parseDigits (2 ^ 32 - 1) digits

/-- `str::parse::<i32>`. -/
def parseI32 : List Char → Option ℤ
  | '+' :: digits => (parseDigits (2 ^ 31 - 1) digits).map Nat.cast
  | '-' :: digits => (parseDigits (2 ^ 31) digits).map fun n ↦ -(n : ℤ)
  | digits => (parseDigits (2 ^ 31 - 1) digits).map Nat.cast

/-- The year and the month that `get_authenticated_daily_spending` reads from a text, if it does not
reject it. -/
def parseDailyMonth (month : String) : Option (ℤ × ℕ) :=
  match month.toList.splitOn '-' with
  | [year, month] => do
    let year ← parseI32 year
    let month ← parseU32 month
    return (year, month)
  | _ => none

example : parseDailyMonth "2024-02" = some (2024, 2) := by decide

theorem notMem_of_mem_splitOn {a : Char} {text part : List Char} (h : part ∈ text.splitOn a) :
    a ∉ part := by
  induction text generalizing part with
  | nil =>
    rw [List.splitOn_nil, List.mem_singleton] at h
    rw [h]
    exact List.not_mem_nil
  | cons c text ih =>
    rw [List.splitOn_cons_eq_if_modifyHead] at h
    split at h
    · obtain rfl | h := List.mem_cons.1 h
      · exact List.not_mem_nil
      · exact ih h
    · rename_i hne
      obtain ⟨first, rest, hsplit⟩ := List.exists_cons_of_ne_nil (List.splitOn_ne_nil a text)
      rw [hsplit, List.modifyHead_cons] at h
      rw [hsplit] at ih
      obtain rfl | h := List.mem_cons.1 h
      · rw [List.mem_cons, not_or]
        exact ⟨fun heq ↦ hne (beq_iff_eq.2 heq.symm), ih List.mem_cons_self⟩
      · exact ih (List.mem_cons_of_mem first h)

theorem parseI32_nonneg {text : List Char} {n : ℤ} (hyphen : '-' ∉ text)
    (h : parseI32 text = some n) : 0 ≤ n := by
  unfold parseI32 at h
  split at h
  · obtain ⟨k, -, rfl⟩ := Option.map_eq_some_iff.1 h
    exact Int.natCast_nonneg k
  · exact absurd List.mem_cons_self hyphen
  · obtain ⟨k, -, rfl⟩ := Option.map_eq_some_iff.1 h
    exact Int.natCast_nonneg k

/-- No text has a year before the year 0: a sign would separate two parts. -/
theorem parseDailyMonth_nonneg {text : String} {year : ℤ} {month : ℕ}
    (h : parseDailyMonth text = some (year, month)) : 0 ≤ year := by
  unfold parseDailyMonth at h
  split at h
  · rename_i first second hsplit
    obtain ⟨y, hy, h⟩ := Option.bind_eq_some_iff.1 h
    obtain ⟨m, -, h⟩ := Option.bind_eq_some_iff.1 h
    obtain ⟨rfl, -⟩ := Prod.mk.inj (Option.some_inj.1 h)
    have hmem : first ∈ text.toList.splitOn '-' := hsplit ▸ List.mem_cons_self
    exact parseI32_nonneg (notMem_of_mem_splitOn hmem) hy
  · exact absurd h nofun

/-! ### The entries -/

section Cumulate

variable (i : ℕ) (cumulative : Decimal) (totals : List Decimal)

theorem cumulate_days :
    (cumulate i cumulative totals).map DailySpending.day = List.range' (i + 1) totals.length := by
  induction totals generalizing i cumulative with
  | nil => rfl
  | cons spend totals ih => rw [cumulate, List.map_cons, ih, List.length_cons, List.range'_succ]

theorem cumulate_spend : (cumulate i cumulative totals).map DailySpending.spend = totals := by
  induction totals generalizing i cumulative with
  | nil => rfl
  | cons spend totals ih => rw [cumulate, List.map_cons, ih]

/-- A cumulative figure is the sum of the figures up to it. -/
theorem cumulate_getElem? {k : ℕ} {entry : DailySpending}
    (h : (cumulate i cumulative totals)[k]? = some entry) :
    entry.cumulative = cumulative + (totals.take (k + 1)).sum := by
  induction totals generalizing i cumulative k with
  | nil => exact absurd h nofun
  | cons spend totals ih =>
    rw [cumulate] at h
    cases k with
    | zero =>
      obtain rfl := Option.some_inj.1 h
      show cumulative + spend = _
      rw [List.take_succ_cons, List.take_zero, List.sum_singleton]
    | succ k =>
      rw [List.getElem?_cons_succ] at h
      rw [ih (i + 1) (cumulative + spend) h, List.take_succ_cons, List.sum_cons, add_assoc]

end Cumulate

/-! ### The answer to a text -/

/-- A month of the calendar. -/
def IsCalendarMonth (year : ℤ) (month : ℕ) : Prop :=
  (NaiveDate.MIN_YEAR ≤ year ∧ year ≤ NaiveDate.MAX_YEAR) ∧ 1 ≤ month ∧ month ≤ 12

/-- An entry for each day of a month, with what has been spent up to it. -/
structure DailyComplete (year : ℤ) (month : ℕ) (daily : List DailySpending) : Prop where
  days : daily.map DailySpending.day = List.range' 1 (NaiveDate.daysInMonth year month)
  cumulative : ∀ k entry, daily[k]? = some entry →
    entry.cumulative = ((daily.map DailySpending.spend).take (k + 1)).sum

/-- A text that the handler does not reject is a month, and the answer is complete, whatever the
transactions are. -/
def DailySafe (text : String) : Prop :=
  ∀ year month, parseDailyMonth text = some (year, month) →
    IsCalendarMonth year month ∧ ∀ transactions, ∃ daily,
      calculateDailySpendingWithAccount transactions year month = some daily ∧
        DailyComplete year month daily

/-- A month of any year but the last one is answered completely. -/
theorem IsCalendarMonth.complete {year : ℤ} {month : ℕ} (h : IsCalendarMonth year month)
    (hyear : year < NaiveDate.MAX_YEAR) (transactions : List TransactionWithAccount) :
    ∃ daily, calculateDailySpendingWithAccount transactions year month = some daily ∧
      DailyComplete year month daily := by
  have hmonth : IsMonth year month (NaiveDate.monthStart year month)
      (NaiveDate.monthStart year (month + 1) - 1) := ⟨h.1, h.2, rfl, rfl⟩
  obtain ⟨totals, hdaily, hlength, -⟩ := hmonth.daily_eq hyear transactions
  refine ⟨_, hdaily, ?_, fun k entry hentry ↦ ?_⟩
  · rw [cumulate_days, hlength, Nat.zero_add]
  · rw [cumulate_getElem? 0 0 totals hentry, cumulate_spend, zero_add]

/-- **When the daily spending is safe and complete.** The handler answers a text as it should if and
only if it rejects it, or the text has one of the twelve months and a year before the last one of
the calendar. -/
theorem dailySpending_iff (text : String) :
    DailySafe text ↔
      ∀ year month, parseDailyMonth text = some (year, month) →
        (1 ≤ month ∧ month ≤ 12) ∧ year < NaiveDate.MAX_YEAR := by
  refine forall₃_congr fun year month hparse ↦ ?_
  constructor
  · intro ⟨hmonth, hanswer⟩
    refine ⟨hmonth.2, ?_⟩
    by_contra hlast
    obtain ⟨daily, hdaily, -⟩ := hanswer []
    rw [daily_eq_none (not_lt.1 hlast)] at hdaily
    exact absurd hdaily nofun
  · intro ⟨hmonth, hyear⟩
    have hvalid : IsCalendarMonth year month :=
      ⟨⟨le_trans (by decide) (parseDailyMonth_nonneg hparse), hyear.le⟩, hmonth⟩
    exact ⟨hvalid, hvalid.complete hyear⟩

/-- **A month 13, and the end of the calendar.** The text `2024-13` is answered with the 31 days of
December, and `262142-01` with a panic. -/
theorem month_thirteen_accepted :
    parseDailyMonth "2024-13" = some (2024, 13) ∧
      (calculateDailySpendingWithAccount [] 2024 13).map List.length = some 31 ∧
      ¬DailySafe "2024-13" ∧
      parseDailyMonth "262142-01" = some (262142, 1) ∧
      calculateDailySpendingWithAccount [] 262142 1 = none := by
  have hparse : parseDailyMonth "2024-13" = some (2024, 13) := by decide
  refine ⟨hparse, by decide, fun h ↦ ?_, by decide, by decide⟩
  exact absurd (h 2024 13 hparse).1.2.2 (by decide)

end Sumurai
