import Mathlib.Algebra.BigOperators.Group.List.Basic
import Mathlib.Algebra.Group.Prod
import Sumurai.Analytics.Spending

/-!
# The spending totals agree

A loop that puts amounts into buckets loses none of them: the buckets add up to the sum of the list
it keeps, whatever the buckets are. The loops over categories, months and merchants differ in
nothing but the bucket, and the order of their two filters. The loop over the days of a month keeps
the same list, because a month is a range of days, and it has a bucket for each of them.

## Main result

`spending_conserved_iff`: the totals of a date range agree, except in one case: the daily figures of
a month in the last year of the calendar, where the loop panics.
-/

namespace Sumurai

variable {transactions : List TransactionWithAccount} {startDate endDate : Option NaiveDate}

/-- The transactions that count in a date range. -/
def spendingInRange (transactions : List TransactionWithAccount)
    (startDate endDate : Option NaiveDate) : List TransactionWithAccount :=
  transactions.filter fun t ↦
    inDateRange startDate endDate t && isSpendingTransactionWithAccount t

theorem sumSpending_eq :
    sumSpendingTransactionsWithAccount transactions startDate endDate =
      ((spendingInRange transactions startDate endDate).map getSpendingAmountWithAccount).sum :=
  rfl

/-! ### The buckets -/

/-- The loop over the categories is a tally of what counts. -/
theorem categories_eq_tally :
    groupTransactionsWithAccountByEffectiveCategory transactions startDate endDate =
      (AssocMap.tally getEffectiveCategoryName getSpendingAmountWithAccount
        (spendingInRange transactions startDate endDate)).map fun entry ↦
          { name := entry.1, value := entry.2 } := by
  have hloop : (fun m t ↦
      if !isSpendingTransactionWithAccount t then m
      else if !inDateRange startDate endDate t then m
      else AssocMap.addTo (getEffectiveCategoryName t) (getSpendingAmountWithAccount t) m) =
      fun m t ↦ if inDateRange startDate endDate t && isSpendingTransactionWithAccount t then
        AssocMap.addTo (getEffectiveCategoryName t) (getSpendingAmountWithAccount t) m else m := by
    funext m t
    cases isSpendingTransactionWithAccount t <;> cases inDateRange startDate endDate t <;> rfl
  rw [groupTransactionsWithAccountByEffectiveCategory, hloop, AssocMap.foldl_addTo_if,
    spendingInRange]

/-- The categories add up. -/
theorem sum_categories :
    ((groupTransactionsWithAccountByEffectiveCategory transactions startDate endDate).map
      CategorySpending.value).sum =
        sumSpendingTransactionsWithAccount transactions startDate endDate := by
  rw [categories_eq_tally, List.map_map, sumSpending_eq]
  exact AssocMap.sum_tally _ _ _

/-- The transactions that count for the months, each bound being applied if it is given. -/
def spendingWithin (transactions : List TransactionWithAccount)
    (startDate endDate : Option NaiveDate) : List TransactionWithAccount :=
  transactions.filter fun t ↦
    !isOutside startDate endDate t && isSpendingTransactionWithAccount t

/-- With both bounds the monthly loop has the date filter of the others. -/
theorem isOutside_some (s e : NaiveDate) (t : TransactionWithAccount) :
    isOutside (some s) (some e) t = !inDateRange (some s) (some e) t := by
  simp only [isOutside, inDateRange, Option.any_some, Bool.decide_and, Bool.not_and]
  congr 1 <;> rw [← decide_not, decide_eq_decide, not_le]

theorem spendingWithin_some (s e : NaiveDate) :
    spendingWithin transactions (some s) (some e) =
      spendingInRange transactions (some s) (some e) := by
  rw [spendingWithin, spendingInRange]
  refine List.filter_congr fun t _ ↦ ?_
  rw [isOutside_some, Bool.not_not]

/-- The loop over the months and categories is a tally, too. -/
theorem monthly_eq_tally :
    calculateMonthlyCategoryTotalsWithAccount transactions startDate endDate =
      ((AssocMap.tally (fun t ↦ (monthKey t.date, getEffectiveCategoryName t))
        getSpendingAmountWithAccount (spendingWithin transactions startDate endDate)).map
          fun entry ↦ { month := entry.1.1
                        category := entry.1.2
                        amount := entry.2 : CategoryMonthlySpending }).insertionSort
        (OrderBy.thenBy (OrderBy.asc fun r ↦ r.month) (OrderBy.asc fun r ↦ r.category)) := by
  have hloop : (fun m t ↦
      if !isSpendingTransactionWithAccount t then m
      else if isOutside startDate endDate t then m
      else AssocMap.addTo (monthKey t.date, getEffectiveCategoryName t)
        (getSpendingAmountWithAccount t) m) =
      fun m t ↦ if !isOutside startDate endDate t && isSpendingTransactionWithAccount t then
        AssocMap.addTo (monthKey t.date, getEffectiveCategoryName t)
          (getSpendingAmountWithAccount t) m else m := by
    funext m t
    cases isSpendingTransactionWithAccount t <;> cases isOutside startDate endDate t <;> rfl
  rw [calculateMonthlyCategoryTotalsWithAccount, hloop,
    AssocMap.foldl_addTo_if _ (fun t ↦ (monthKey t.date, getEffectiveCategoryName t)),
    spendingWithin]

/-- The months and categories add up. -/
theorem sum_monthly (s e : NaiveDate) :
    ((calculateMonthlyCategoryTotalsWithAccount transactions (some s) (some e)).map
      CategoryMonthlySpending.amount).sum =
        sumSpendingTransactionsWithAccount transactions (some s) (some e) := by
  rw [monthly_eq_tally, ((List.perm_insertionSort _ _).map CategoryMonthlySpending.amount).sum_eq,
    List.map_map, sumSpending_eq, spendingWithin_some]
  exact AssocMap.sum_tally _ _ _

/-- The merchant that a transaction is counted under. -/
def spendingMerchant (t : TransactionWithAccount) : String :=
  t.merchantName.getD "Unknown Merchant"

/-- The loop over the merchants is a tally of amounts and numbers. -/
theorem merchantMap_eq_tally :
    merchantMap transactions startDate endDate =
      AssocMap.tally spendingMerchant (fun t ↦ (getSpendingAmountWithAccount t, 1))
        (spendingInRange transactions startDate endDate) := by
  have hloop : (fun m t ↦
      if !inDateRange startDate endDate t then m
      else if !isSpendingTransactionWithAccount t then m
      else AssocMap.addTo (t.merchantName.getD "Unknown Merchant")
        (getSpendingAmountWithAccount t, 1) m) =
      fun (m : List (String × Decimal × ℕ)) t ↦
        if inDateRange startDate endDate t && isSpendingTransactionWithAccount t then
          AssocMap.addTo (spendingMerchant t) (getSpendingAmountWithAccount t, 1) m else m := by
    funext m t
    cases isSpendingTransactionWithAccount t <;> cases inDateRange startDate endDate t <;> rfl
  rw [merchantMap, hloop, AssocMap.foldl_addTo_if, spendingInRange]

/-- What adds up in the transactions adds up in the merchants. -/
theorem sum_merchantMap :
    ((merchantMap transactions startDate endDate).map Prod.snd).sum =
      ((spendingInRange transactions startDate endDate).map fun t ↦
        ((getSpendingAmountWithAccount t, 1) : Decimal × ℕ)).sum := by
  rw [merchantMap_eq_tally, AssocMap.sum_tally]

/-- The merchants add up, if the limit cuts none off. -/
theorem sum_merchants {limit : ℕ}
    (hlimit : (merchantMap transactions startDate endDate).length ≤ limit) :
    ((getTopMerchantsWithAccountDateRange transactions startDate endDate limit).map
      TopMerchant.amount).sum =
        sumSpendingTransactionsWithAccount transactions startDate endDate := by
  have hfst := congrArg (AddMonoidHom.fst Decimal ℕ)
    (@sum_merchantMap transactions startDate endDate)
  rw [map_list_sum, map_list_sum, List.map_map, List.map_map] at hfst
  rw [getTopMerchantsWithAccountDateRange, List.take_of_length_le (by
    rw [List.length_insertionSort, List.length_map]; exact hlimit),
    ((List.perm_insertionSort _ _).map TopMerchant.amount).sum_eq, List.map_map, sumSpending_eq]
  exact hfst

/-! ### The days of a month -/

/-- A transaction that the loop over the days of a month counts. -/
def countsInMonth (year : ℤ) (month : ℕ) (t : TransactionWithAccount) : Bool :=
  NaiveDate.year t.date = year ∧ NaiveDate.month t.date = month ∧
    isSpendingTransactionWithAccount t

theorem sum_modify {totals : List Decimal} {idx : ℕ} (amount : Decimal)
    (hidx : idx < totals.length) : (totals.modify idx (· + amount)).sum = totals.sum + amount := by
  induction totals generalizing idx with
  | nil => exact absurd hidx (Nat.not_lt_zero idx)
  | cons spend totals ih =>
    cases idx with
    | zero =>
      show (spend + amount) + totals.sum = (spend + totals.sum) + amount
      rw [add_right_comm]
    | succ idx =>
      show spend + (totals.modify idx (· + amount)).sum = (spend + totals.sum) + amount
      rw [ih (Nat.lt_of_succ_lt_succ hidx), add_assoc]

/-- The loop over the days stays within bounds, and loses no amount. -/
theorem dailyLoop_eq {year : ℤ} {month : ℕ} (transactions : List TransactionWithAccount)
    {totals : List Decimal} (hlength : totals.length = NaiveDate.daysInMonth year month) :
    ∃ totals', transactions.foldlM
        (fun totals t ↦
          if NaiveDate.year t.date = year ∧ NaiveDate.month t.date = month ∧
              isSpendingTransactionWithAccount t then
            addAt (NaiveDate.day t.date - 1) (getSpendingAmountWithAccount t) totals
          else some totals) totals = some totals' ∧
      totals'.length = NaiveDate.daysInMonth year month ∧
      totals'.sum = totals.sum +
        ((transactions.filter (countsInMonth year month)).map
          getSpendingAmountWithAccount).sum := by
  induction transactions generalizing totals with
  | nil => exact ⟨totals, rfl, hlength, (add_zero _).symm⟩
  | cons t transactions ih =>
    rw [List.foldlM_cons]
    split
    · rename_i h
      have hcounts : countsInMonth year month t = true := decide_eq_true h
      obtain ⟨hyear, hmonth, -⟩ := h
      have hidx : NaiveDate.day t.date - 1 < totals.length := by
        have hone := NaiveDate.one_le_day t.date
        have hle := NaiveDate.day_le_daysInMonth t.date
        rw [hyear, hmonth] at hle
        omega
      rw [addAt, if_pos hidx, Option.bind_eq_bind, Option.bind_some]
      obtain ⟨totals', hloop, hlen, hsum⟩ :=
        @ih (totals.modify (NaiveDate.day t.date - 1) (· + getSpendingAmountWithAccount t))
          (by rw [List.length_modify]; exact hlength)
      refine ⟨totals', hloop, hlen, ?_⟩
      rw [hsum, sum_modify _ hidx, List.filter_cons_of_pos hcounts, List.map_cons, List.sum_cons,
        add_assoc]
    · rename_i h
      rw [Option.bind_eq_bind, Option.bind_some,
        List.filter_cons_of_neg (by simpa [countsInMonth] using h)]
      exact ih hlength

theorem cumulate_getLast? (i : ℕ) (cumulative : Decimal) {totals : List Decimal}
    (h : totals ≠ []) : ∃ last, (cumulate i cumulative totals).getLast? = some last ∧
      last.cumulative = cumulative + totals.sum := by
  induction totals generalizing i cumulative with
  | nil => exact absurd rfl h
  | cons spend totals ih =>
    cases totals with
    | nil =>
      refine ⟨⟨i + 1, spend, cumulative + spend⟩, rfl, ?_⟩
      rw [List.sum_singleton]
    | cons next totals =>
      obtain ⟨last, hlast, hsum⟩ := ih (i + 1) (cumulative + spend) (List.cons_ne_nil next totals)
      refine ⟨last, ?_, ?_⟩
      · rw [cumulate, cumulate, List.getLast?_cons_cons]
        exact hlast
      · rw [hsum, add_assoc, ← List.sum_cons]

/-- A range of days that is a month of the calendar. -/
structure IsMonth (year : ℤ) (month : ℕ) (startDate endDate : NaiveDate) : Prop where
  year_valid : NaiveDate.MIN_YEAR ≤ year ∧ year ≤ NaiveDate.MAX_YEAR
  month_valid : 1 ≤ month ∧ month ≤ 12
  starts : startDate = NaiveDate.monthStart year month
  ends : endDate = NaiveDate.monthStart year (month + 1) - 1

namespace IsMonth

variable {year : ℤ} {month : ℕ} {s e : NaiveDate}

theorem mem_iff (h : IsMonth year month s e) {d : NaiveDate} :
    (NaiveDate.year d = year ∧ NaiveDate.month d = month) ↔ s ≤ d ∧ d ≤ e := by
  rw [NaiveDate.mem_month_iff h.month_valid.1 h.month_valid.2, h.starts, h.ends, Int.le_sub_one_iff]

/-- The loop over the days counts what is in the range of the month. -/
theorem filter_countsInMonth (h : IsMonth year month s e)
    (transactions : List TransactionWithAccount) :
    transactions.filter (countsInMonth year month) =
      spendingInRange transactions (some s) (some e) := by
  refine List.filter_congr fun t _ ↦ ?_
  rw [Bool.eq_iff_iff, countsInMonth, decide_eq_true_iff, Bool.and_eq_true, inDateRange,
    decide_eq_true_iff, ← h.mem_iff, and_assoc]

/-- The last day of a month, as the loop computes it, unless the year is the last one. -/
theorem last_eq (h : IsMonth year month s e) (hyear : year < NaiveDate.MAX_YEAR) :
    NaiveDate.fromYmdOpt (year + 1) 1 1 = some (NaiveDate.monthStart year 13) ∧
      NaiveDate.predOpt ((NaiveDate.fromYmdOpt year (month + 1) 1).getD
        (NaiveDate.monthStart year 13)) = some e := by
  obtain ⟨hone, htwelve⟩ := h.month_valid
  have hnext : (NaiveDate.fromYmdOpt year (month + 1) 1).getD (NaiveDate.monthStart year 13) =
      NaiveDate.monthStart year (month + 1) := by
    rcases htwelve.lt_or_eq with hlt | rfl
    · rw [NaiveDate.fromYmdOpt_first h.year_valid ⟨Nat.le_add_left 1 month, hlt⟩, Option.getD_some]
    · rw [NaiveDate.fromYmdOpt_thirteen, Option.getD_none]
  refine ⟨?_, ?_⟩
  · rw [NaiveDate.monthStart_thirteen]
    exact NaiveDate.fromYmdOpt_first ⟨h.year_valid.1.trans (by lia), by lia⟩ (by decide)
  · rw [hnext, NaiveDate.predOpt, if_pos (NaiveDate.MIN_lt_monthStart h.year_valid.1 hone htwelve),
      h.ends]

theorem start_le_end (h : IsMonth year month s e) : s ≤ e := by
  rw [h.starts, h.ends, Int.le_sub_one_iff]
  exact NaiveDate.monthStart_lt_succ year h.month_valid.1 h.month_valid.2

/-- The month has as many days as its last day says. -/
theorem day_end (h : IsMonth year month s e) :
    NaiveDate.day e = NaiveDate.daysInMonth year month := by
  obtain ⟨hyear, hmonth⟩ := h.mem_iff.2 ⟨h.start_le_end, le_rfl⟩
  have hday := NaiveDate.day_eq hyear hmonth
  rw [h.ends] at hday ⊢
  rw [NaiveDate.daysInMonth]
  simp only [NaiveDate.monthStart] at hday ⊢
  lia

/-- In every year but the last one the loop returns an entry for each day, and loses no amount. -/
theorem daily_eq (h : IsMonth year month s e) (hyear : year < NaiveDate.MAX_YEAR)
    (transactions : List TransactionWithAccount) :
    ∃ totals, calculateDailySpendingWithAccount transactions year month =
        some (cumulate 0 0 totals) ∧
      totals.length = NaiveDate.daysInMonth year month ∧
      totals.sum = sumSpendingTransactionsWithAccount transactions (some s) (some e) := by
  obtain ⟨hnext, hlast⟩ := h.last_eq hyear
  obtain ⟨totals, hloop, hlength, hsum⟩ := dailyLoop_eq transactions
    (List.length_replicate (n := NaiveDate.daysInMonth year month) (a := (0 : Decimal)))
  refine ⟨totals, ?_, hlength, ?_⟩
  · rw [calculateDailySpendingWithAccount, hnext, Option.bind_eq_bind, Option.bind_some, hlast,
      Option.bind_eq_bind, Option.bind_some, h.day_end, hloop]
    rfl
  · rw [hsum, h.filter_countsInMonth, List.sum_replicate, nsmul_zero, zero_add]
    rfl

theorem one_le_daysInMonth (h : IsMonth year month s e) :
    1 ≤ NaiveDate.daysInMonth year month := by
  rw [← h.day_end]
  exact NaiveDate.one_le_day e

/-- **The days of a month add up**, in every year but the last one. -/
theorem sum_daily (h : IsMonth year month s e) (hyear : year < NaiveDate.MAX_YEAR) :
    ∃ daily last, calculateDailySpendingWithAccount transactions year month = some daily ∧
      daily.getLast? = some last ∧
      last.cumulative = sumSpendingTransactionsWithAccount transactions (some s) (some e) := by
  obtain ⟨totals, hdaily, hlength, hsum⟩ := h.daily_eq hyear transactions
  have hne : totals ≠ [] := by
    rintro rfl
    exact absurd (hlength ▸ h.one_le_daysInMonth) (by decide)
  obtain ⟨last, hgetLast, hcumulative⟩ := cumulate_getLast? 0 0 hne
  refine ⟨_, last, hdaily, hgetLast, ?_⟩
  rw [hcumulative, hsum, zero_add]

end IsMonth

/-- From the last year of the calendar on there is no first day of the next year, and the loop
panics. -/
theorem daily_eq_none {year : ℤ} (h : NaiveDate.MAX_YEAR ≤ year) (month : ℕ)
    (transactions : List TransactionWithAccount) :
    calculateDailySpendingWithAccount transactions year month = none := by
  rw [calculateDailySpendingWithAccount, NaiveDate.fromYmdOpt_of_lt (Int.lt_add_one_of_le h)]
  rfl

/-! ### The totals of a date range -/

/-- The totals of a date range agree: those of the categories, of the months and categories, and of
the merchants where the limit cuts none off, with the one sum; and, if the range is a month, the
last cumulative figure of its days. -/
structure SpendingConserved (transactions : List TransactionWithAccount) (s e : NaiveDate) :
    Prop where
  categories : ((groupTransactionsWithAccountByEffectiveCategory transactions (some s)
    (some e)).map CategorySpending.value).sum =
      sumSpendingTransactionsWithAccount transactions (some s) (some e)
  monthly : ((calculateMonthlyCategoryTotalsWithAccount transactions (some s) (some e)).map
    CategoryMonthlySpending.amount).sum =
      sumSpendingTransactionsWithAccount transactions (some s) (some e)
  merchants : ∀ limit, (merchantMap transactions (some s) (some e)).length ≤ limit →
    ((getTopMerchantsWithAccountDateRange transactions (some s) (some e) limit).map
      TopMerchant.amount).sum =
        sumSpendingTransactionsWithAccount transactions (some s) (some e)
  daily : ∀ year month, IsMonth year month s e → ∃ daily last,
    calculateDailySpendingWithAccount transactions year month = some daily ∧
      daily.getLast? = some last ∧
      last.cumulative = sumSpendingTransactionsWithAccount transactions (some s) (some e)

/-- **When the spending totals agree**: in every date range but the months of the last year of the
calendar. -/
theorem spending_conserved_iff (transactions : List TransactionWithAccount) (s e : NaiveDate) :
    SpendingConserved transactions s e ↔
      ∀ month, ¬ IsMonth NaiveDate.MAX_YEAR month s e := by
  constructor
  · intro h month hmonth
    obtain ⟨daily, last, hdaily, -⟩ := h.daily _ month hmonth
    rw [daily_eq_none le_rfl] at hdaily
    exact absurd hdaily (by simp)
  · intro h
    refine ⟨sum_categories, sum_monthly s e, fun limit ↦ sum_merchants, fun year month hmonth ↦ ?_⟩
    refine hmonth.sum_daily (lt_of_le_of_ne hmonth.year_valid.2 ?_)
    rintro rfl
    exact h month hmonth

/-- **The month in which the daily figures are missing**: January of the last year, here without any
transactions. -/
theorem spending_january_262142 :
    ¬ SpendingConserved [] (NaiveDate.monthStart 262142 1) (NaiveDate.monthStart 262142 2 - 1) := by
  intro h
  obtain ⟨daily, last, hdaily, -⟩ := h.daily 262142 1 ⟨by decide, by decide, rfl, rfl⟩
  have hpanics : calculateDailySpendingWithAccount [] 262142 1 = none := by decide
  rw [hpanics] at hdaily
  exact absurd hdaily (by simp)

end Sumurai
