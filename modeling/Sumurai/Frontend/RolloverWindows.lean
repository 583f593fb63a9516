import Sumurai.Foundations.PartialSums
import Sumurai.Frontend.BudgetCalculator

/-!
# The windows of a budget

`computeRolloverBudget` adds up three windows of days, each with ends of its own: the month, the
year to date, and the months since the budget carries over. Every one of them is a window of whole
months, so what is spent in it is the sum of what is spent in these months
(`calculateSpent_window`).

## Main result

`rollover_windows`: the year to date is the sum of its months, and the prior months are those of the
year from the start of the rollover up to the month before, for every year and month.
-/

namespace Sumurai.Frontend

open Text PartialSums

variable (M : CaseMapping)

/-- A transaction dated with a day of the calendar, `YYYY-MM-DD`. -/
def IsDated (t : Transaction) : Prop :=
  ∃ y m d, IsDay y m d ∧ t.date = String.ofList (dateText y m d)

/-- The month of a year that a transaction is dated in, counted from zero. -/
def monthIn (year : ℤ) (t : Transaction) : Option ℕ :=
  match parseDay t.date.toList with
  | some (y, m, _) => if (toString year).toList = padded 4 y then some (m - 1) else none
  | none => none

/-- What is spent in a month of a year. -/
def spentIn (transactions : List Transaction) (categoryId : String)
    (subcategoryId : Option String) (year : ℤ) (month : ℕ) : Decimal :=
  sumOf (getNetSpendingAmount M)
    (fun t ↦ monthIn year t = some month ∧ isInCategory M categoryId subcategoryId t)
    transactions

/-! ### One window -/

/-- The second filter does not throw on dated transactions. -/
theorem filterDays_eq {start stop : List Char} {transactions : List Transaction}
    (hdated : ∀ t ∈ transactions, IsDated t) :
    filterDays start stop transactions =
      some (transactions.filter fun t ↦ isBetween start stop t.date.toList) := by
  induction transactions with
  | nil => rfl
  | cons t transactions ih =>
    obtain ⟨y, m, d, hday, hdate⟩ := hdated t List.mem_cons_self
    rw [filterDays, hdate, isoDay_dateText hday,
      ih fun t ht ↦ hdated t (List.mem_cons_of_mem _ ht), List.filter_cons, hdate,
      String.toList_ofList]
    rfl

/-- A window of whole months has the transactions of these months. -/
theorem isBetween_iff_monthIn {t : Transaction} (hdated : IsDated t) (year : ℤ) {first last : ℕ}
    (hfirst : first < 12) (hlast : last < 12) :
    isBetween (dayTemplate year ((first : ℤ) + 1) 1)
        (dayTemplate year ((last : ℤ) + 1) (lastDayBefore year (last + 1))) t.date.toList ↔
      ∃ i, monthIn year t = some i ∧ first ≤ i ∧ i ≤ last := by
  obtain ⟨y, m, d, hday, hdate⟩ := hdated
  have hone := hday.one_le_month
  have hfirst' : first + 1 < 100 := by omega
  have hlast' : last + 1 < 100 := by omega
  have hbetween := between_template_iff year hday hfirst' hlast'
    (lastDayBefore_lt year (m := last + 1) (by omega))
    fun hyear hlarge hm ↦ by rw [hyear, lastDayBefore_eq (by omega) hlarge, hm]
  rw [Nat.cast_add, Nat.cast_one, Nat.cast_add, Nat.cast_one] at hbetween
  rw [hdate, String.toList_ofList, hbetween, monthIn, hdate, String.toList_ofList,
    parseDay_dateText hday]
  simp only
  split
  · rename_i htext
    rw [and_iff_right htext]
    constructor
    · rintro ⟨hle, hge⟩
      exact ⟨m - 1, rfl, by omega, by omega⟩
    · rintro ⟨i, hi, hle, hge⟩
      rw [Option.some.injEq] at hi
      omega
  · rename_i htext
    exact iff_of_false (fun h ↦ htext h.1) (by simp)

/-- **A window of whole months** adds up what is spent in them. -/
theorem calculateSpent_window {transactions : List Transaction}
    (hdated : ∀ t ∈ transactions, IsDated t) (categoryId : String)
    (subcategoryId : Option String) (year : ℤ) {first last : ℕ} (hfirst : first < 12)
    (hlast : last < 12) {months : List ℕ} (hnodup : months.Nodup)
    (hmonths : ∀ i, i ∈ months ↔ first ≤ i ∧ i ≤ last) :
    calculateSpent M transactions categoryId (dayTemplate year ((first : ℤ) + 1) 1)
        (dayTemplate year ((last : ℤ) + 1) (lastDayBefore year (last + 1))) subcategoryId =
      some ((months.map (spentIn M transactions categoryId subcategoryId year)).sum) := by
  have hfilter : filterDays (dayTemplate year ((first : ℤ) + 1) 1)
      (dayTemplate year ((last : ℤ) + 1) (lastDayBefore year (last + 1)))
        (transactions.filter (isInCategory M categoryId subcategoryId)) = _ :=
    filterDays_eq fun t ht ↦ hdated t (List.mem_filter.1 ht).1
  rw [calculateSpent, hfilter]
  refine congrArg some ?_
  have hkeys : (months.map some).Nodup := hnodup.map (Option.some_injective ℕ)
  -- the days of the window are those with a month among its months
  have hpart : ((((transactions.filter (isInCategory M categoryId subcategoryId)).filter fun t ↦
      isBetween (dayTemplate year ((first : ℤ) + 1) 1)
        (dayTemplate year ((last : ℤ) + 1) (lastDayBefore year (last + 1))) t.date.toList).map
          (getNetSpendingAmount M)).sum) =
      sumOf (getNetSpendingAmount M) (fun t ↦ isInCategory M categoryId subcategoryId t ∧
        monthIn year t ∈ months.map some) transactions := by
    rw [sumOf, List.filter_filter]
    refine congrArg (fun l ↦ (l.map (getNetSpendingAmount M)).sum)
      (List.filter_congr fun t ht ↦ ?_)
    have hmonth := isBetween_iff_monthIn (hdated t ht) year hfirst hlast
    rw [Bool.eq_iff_iff, Bool.and_eq_true, decide_eq_true_eq, hmonth, and_comm, List.mem_map]
    exact and_congr_right fun _ ↦ exists_congr fun i ↦ by rw [hmonths i]; tauto
  rw [hpart, ← sum_sumOf_key (monthIn year) hkeys fun t _ h ↦ h.2, List.map_map]
  refine congrArg List.sum (List.map_congr_left fun i hi ↦ sumOf_congr fun t _ ↦ ?_)
  constructor
  · exact fun h ↦ ⟨h.1, h.2.1⟩
  · exact fun h ↦ ⟨h.1, h.2, h.1 ▸ List.mem_map_of_mem hi⟩

/-! ### The start of the rollover -/

/-- `YYYY-MM`. -/
def monthText (y m : ℕ) : String :=
  String.ofList (padded 4 y ++ '-' :: padded 2 m)

theorem parseInt_padded {w n : ℕ} (hw : 0 < w) (hn : n < 10 ^ w) :
    parseInt (padded w n) = some (n : ℤ) := by
  have hdigit : ∀ c ∈ padded w n, c.isDigit := fun c hc ↦ isDigit_of_mem_padded hc
  have hne : padded w n ≠ [] := fun h ↦ by
    have hlength := length_padded w n
    rw [h, List.length_nil] at hlength
    omega
  have hspace : (padded w n).dropWhile isSpace = padded w n := by
    refine List.dropWhile_eq_self_iff.2 fun hpos hspace ↦ ?_
    have hall : ∀ c : Char, isSpace c → c.isDigit = false := fun c hc ↦ by
      have halphanum := not_isAlphanum_of_isSpace c hc
      rw [Char.isAlphanum, Bool.or_eq_false_iff] at halphanum
      exact halphanum.2
    have hfalse := hall _ hspace
    rw [hdigit _ (List.getElem_mem hpos)] at hfalse
    exact absurd hfalse (by decide)
  have htake : (padded w n).takeWhile Char.isDigit = padded w n :=
    List.takeWhile_eq_self_iff.2 hdigit
  rw [parseInt, hspace]
  split
  · rename_i heq
    exact absurd (hdigit '-' (heq ▸ List.mem_cons_self)) (by decide)
  · rename_i heq
    exact absurd (hdigit '+' (heq ▸ List.mem_cons_self)) (by decide)
  · simp only [htake, if_neg hne, ofDigitChars_padded hn]

/-- A start month is read back. -/
theorem rolloverStart_monthText {localMonth : String → Option (ℤ × ℤ)} {budget : Budget}
    {startYear startMonth : ℕ} (hyear : startYear ≤ 9999) (hmonth : startMonth ≤ 12)
    (hstart : budget.rolloverStartMonth = some (monthText startYear startMonth)) (year : ℤ) :
    rolloverStart localMonth budget year = (some (startYear : ℤ), some ((startMonth : ℤ) - 1)) := by
  have hne : monthText startYear startMonth ≠ "" := fun h ↦ by
    have hlength := congrArg (fun s ↦ s.toList.length) h
    simp [monthText] at hlength
  have hnot {w n : ℕ} : '-' ∉ padded w n := fun hmem ↦
    absurd (isDigit_of_mem_padded hmem) (by decide)
  have hsplit : (monthText startYear startMonth).toList.splitOn '-' =
      [padded 4 startYear, padded 2 startMonth] := by
    rw [monthText, String.toList_ofList, List.splitOn_append_cons_self_of_not_mem hnot,
      List.splitOn_eq_singleton hnot]
  have hparseYear : parseInt (padded 4 startYear) = some (startYear : ℤ) :=
    parseInt_padded (by decide) (Nat.lt_succ_of_le hyear)
  have hparseMonth : parseInt (padded 2 startMonth) = some (startMonth : ℤ) :=
    parseInt_padded (by decide) (hmonth.trans_lt (by decide))
  rw [rolloverStart, hstart, Option.filter_some, if_pos (decide_eq_true hne)]
  simp only [hsplit, hparseYear, hparseMonth, Option.map_some]

/-! ### All windows -/

/-- The months of a year before `month` and not before the start of the rollover. -/
def carriedMonths (startYear startMonth : ℕ) (year : ℤ) (month : ℕ) : List ℕ :=
  (List.range month).filter fun i ↦ startYear < year ∨ startYear = year ∧ startMonth ≤ i + 1

theorem mem_carriedMonths {startYear startMonth : ℕ} {year : ℤ} {month i : ℕ} :
    i ∈ carriedMonths startYear startMonth year month ↔
      i < month ∧ (startYear < year ∨ startYear = year ∧ startMonth ≤ i + 1) := by
  rw [carriedMonths, List.mem_filter, List.mem_range, decide_eq_true_eq]

theorem nodup_carriedMonths (startYear startMonth : ℕ) (year : ℤ) (month : ℕ) :
    (carriedMonths startYear startMonth year month).Nodup :=
  List.nodup_range.filter _

theorem carriedMonths_eq_nil {startYear startMonth : ℕ} {year : ℤ} {month : ℕ}
    (h : ∀ i < month, ¬(startYear < year ∨ startYear = year ∧ startMonth ≤ i + 1)) :
    carriedMonths startYear startMonth year month = [] :=
  List.eq_nil_iff_forall_not_mem.2 fun i hi ↦
    h i (mem_carriedMonths.1 hi).1 (mem_carriedMonths.1 hi).2

/-- A budget of an earlier year carries over from all months before this one. -/
theorem length_carriedMonths_of_lt {startYear startMonth : ℕ} {year : ℤ} (h : startYear < year)
    (month : ℕ) : (carriedMonths startYear startMonth year month).length = month := by
  rw [carriedMonths, List.filter_eq_self.2 fun i _ ↦ decide_eq_true (Or.inl h), List.length_range]

/-- A budget of this year carries over from the months since it started. -/
theorem length_carriedMonths_of_eq {startYear startMonth : ℕ} {year : ℤ} (h : startYear = year)
    (hone : 1 ≤ startMonth) (month : ℕ) :
    (carriedMonths startYear startMonth year month).length = month - (startMonth - 1) := by
  have hpred (i : ℕ) : (startYear < year ∨ startYear = year ∧ startMonth ≤ i + 1) ↔
      startMonth ≤ i + 1 := by
    omega
  simp only [carriedMonths, hpred]
  induction month with
  | zero => rw [List.range_zero, List.filter_nil, List.length_nil, Nat.zero_sub]
  | succ month ih =>
    rw [List.range_succ, List.filter_append, List.length_append, ih, List.filter_singleton]
    by_cases hstarted : startMonth ≤ month + 1
    · rw [decide_eq_true hstarted, cond_true, List.length_singleton]
      omega
    · rw [decide_eq_false hstarted, cond_false, List.length_nil]
      omega

/-- The prior months, where what is spent in a window is the sum of its months. -/
theorem priorMonths_eq (spent : List Char → List Char → Option Decimal) {spentIn : ℕ → Decimal}
    {year : ℤ} (hspent : ∀ first < 12, ∀ last < 12, ∀ months : List ℕ, months.Nodup →
      (∀ i, i ∈ months ↔ first ≤ i ∧ i ≤ last) →
        spent (dayTemplate year ((first : ℤ) + 1) 1)
          (dayTemplate year ((last : ℤ) + 1) (lastDayBefore year (last + 1))) =
            some ((months.map spentIn).sum))
    (startYear : ℕ) {startMonth : ℕ} (hone : 1 ≤ startMonth) (htwelve : startMonth ≤ 12)
    {month : ℕ} (hmonth : month < 12) :
    priorMonths spent ⟨year, some month⟩ (some (startYear : ℤ), some ((startMonth : ℤ) - 1)) =
      some (((carriedMonths startYear startMonth year month).length : ℤ),
        ((carriedMonths startYear startMonth year month).map spentIn).sum) := by
  -- the window up to the month before this one
  have hwindow (first : ℕ) (hfirst : first < 12) (hpos : 0 < month)
      (hmem : ∀ i, i ∈ carriedMonths startYear startMonth year month ↔ first ≤ i ∧ i < month) :
      spent (dayTemplate year ((first : ℤ) + 1) 1)
        (dayTemplate year month (lastDayBefore year month)) =
          some (((carriedMonths startYear startMonth year month).map spentIn).sum) := by
    have hlast := hspent first hfirst (month - 1) (by omega) _
      (nodup_carriedMonths startYear startMonth year month) fun i ↦ by rw [hmem i]; omega
    rwa [Nat.sub_add_cancel hpos, Nat.cast_sub hpos, Nat.cast_one, sub_add_cancel] at hlast
  have hnil (h : ∀ i < month, ¬(startYear < year ∨ startYear = year ∧ startMonth ≤ i + 1)) :
      (some ((0 : ℤ), (0 : Decimal))) =
        some (((carriedMonths startYear startMonth year month).length : ℤ),
          ((carriedMonths startYear startMonth year month).map spentIn).sum) := by
    rw [carriedMonths_eq_nil h]
    rfl
  simp only [priorMonths, Option.any_some, decide_eq_true_eq, Option.some.injEq,
    Option.filter_some]
  rcases lt_trichotomy (startYear : ℤ) year with hlt | heq | hgt
  · rw [if_pos hlt]
    split
    · rename_i hpos
      have hfull := hwindow 0 (by decide) hpos fun i ↦ by
        rw [mem_carriedMonths, and_iff_left (Or.inl hlt)]
        omega
      rw [Nat.cast_zero, zero_add] at hfull
      rw [hfull, length_carriedMonths_of_lt hlt, Option.map_some]
    · exact hnil fun i hi ↦ by omega
  · rw [if_neg (by omega), if_pos heq]
    by_cases hstarted : (startMonth : ℤ) - 1 < month
    · have hfrom := hwindow (startMonth - 1) (by omega) (by omega) fun i ↦ by
        rw [mem_carriedMonths]
        omega
      rw [Nat.cast_sub hone, Nat.cast_one] at hfrom
      rw [if_pos hstarted]
      simp only [hfrom, Option.map_some, length_carriedMonths_of_eq heq hone]
      rw [Nat.cast_sub (by omega), Nat.cast_sub hone, Nat.cast_one]
    · rw [if_neg hstarted]
      exact hnil fun i hi ↦ by omega
  · rw [if_neg (by omega), if_neg (by omega)]
    exact hnil fun i hi ↦ by omega

/-- **The windows of a budget.** -/
theorem rollover_windows (localMonth : String → Option (ℤ × ℤ)) (budget : Budget)
    (startYear startMonth : ℕ) (hyear : startYear ≤ 9999) (hone : 1 ≤ startMonth)
    (htwelve : startMonth ≤ 12)
    (hstart : budget.rolloverStartMonth = some (monthText startYear startMonth))
    (transactions : List Transaction) (hdated : ∀ t ∈ transactions, IsDated t) (year : ℤ)
    (subcategory : Option String) :
    ∃ spent : ℕ → Decimal, ∀ month < 12, ∃ result,
      computeRolloverBudget M localMonth budget transactions ⟨year, some month⟩ subcategory =
          some result ∧
        result.monthSpent = spent month ∧
        result.ytdSpent = ((List.range (month + 1)).map spent).sum ∧
        result.priorMonthsSpent =
          ((carriedMonths startYear startMonth year month).map spent).sum ∧
        result.priorMonthsAllocated =
          (carriedMonths startYear startMonth year month).length * budget.amount := by
  have hwindow (first : ℕ) (hfirst : first < 12) (last : ℕ) (hlast : last < 12) (months : List ℕ)
      (hnodup : months.Nodup) (hmonths : ∀ i, i ∈ months ↔ first ≤ i ∧ i ≤ last) :=
    calculateSpent_window M hdated budget.category subcategory year hfirst hlast hnodup hmonths
  refine ⟨spentIn M transactions budget.category subcategory year, fun month hmonth ↦ ?_⟩
  have hthis := hwindow month hmonth month hmonth [month] (List.nodup_singleton month) fun i ↦ by
    rw [List.mem_singleton]
    omega
  have hyearToDate := hwindow 0 (by decide) month hmonth (List.range (month + 1))
    List.nodup_range fun i ↦ by
      rw [List.mem_range]
      omega
  have hprior := priorMonths_eq (fun start stop ↦
    calculateSpent M transactions budget.category start stop subcategory) hwindow startYear hone
      htwelve hmonth
  rw [List.map_singleton, List.sum_singleton] at hthis
  rw [Nat.cast_zero, zero_add] at hyearToDate
  simp only [computeRolloverBudget, Option.isNone_some, Bool.false_eq_true, if_false,
    Option.getD_some, rolloverStart_monthText hyear htwelve hstart, hthis, hyearToDate, hprior,
    Option.bind_eq_bind, Option.bind_some]
  exact ⟨_, rfl, rfl, rfl, rfl, rfl⟩

/-- A budget that carries over from March of a leap year. -/
def marchBudget : Budget where
  id := "1"
  category := "Groceries"
  amount := 40000
  frequency := none
  rollover := some true
  rolloverStartMonth := some "2024-03"
  createdAt := none

/-- Groceries on the last day of February. -/
def leapDayPurchase : Transaction where
  accountId := some "1"
  date := "2024-02-29"
  amount := 2500
  pending := some false
  category := { primary := "Groceries", detailed := none }
  accountType := "checking"
  provider := some "plaid"
  customCategory := none
  customSubcategory := none
  ruleCategory := none
  ruleSubcategory := none

theorem rollover_windows_leapYear : ∃ spent : ℕ → Decimal, ∀ month < 12, ∃ result,
    computeRolloverBudget simpleCase (fun _ ↦ none) marchBudget [leapDayPurchase]
        ⟨2024, some month⟩ none = some result ∧
      result.monthSpent = spent month ∧
      result.ytdSpent = ((List.range (month + 1)).map spent).sum ∧
      result.priorMonthsSpent = ((carriedMonths 2024 3 2024 month).map spent).sum ∧
      result.priorMonthsAllocated = (carriedMonths 2024 3 2024 month).length * 40000 := by
  have hdated : ∀ t ∈ [leapDayPurchase], IsDated t := fun t ht ↦ by
    obtain rfl := List.mem_singleton.1 ht
    exact ⟨2024, 2, 29, by decide, by decide⟩
  exact rollover_windows simpleCase (fun _ ↦ none) marchBudget 2024 3 (by decide) (by decide)
    (by decide) (by decide) [leapDayPurchase] hdated 2024
      none

end Sumurai.Frontend
