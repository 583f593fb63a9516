import Mathlib.Data.String.Basic
import Sumurai.Analytics.BalanceCategory
import Sumurai.Analytics.SpendingCategory
import Sumurai.Foundations.AssocMap
import Sumurai.Foundations.OrderBy
import Sumurai.Models.Dates

/-!
# Spending totals

The five loops of `analytics_service.rs` that total the spending of a list of transactions: as one
sum, by category, by month and category, by merchant, and by day of a month. Each filters the list
in its own way and puts the amounts into buckets of its own.

`HashMap` iterates in an order of its own; the model keeps the order of first insertion. Amounts
have two decimals, so `round_amount` changes none.

The loop over the days of a month can panic: `from_ymd_opt(year + 1, 1, 1).unwrap()` is evaluated in
every month, also where it is not needed, and the last year of the calendar has no next one.
-/

namespace Sumurai

/-! ### One sum -/

/-- The date filter of the loops, which is off unless both bounds are given. -/
def inDateRange (startDate endDate : Option NaiveDate) (t : TransactionWithAccount) : Bool :=
  match startDate, endDate with
  | some s, some e => s ≤ t.date ∧ t.date ≤ e
  | _, _ => true

/-- `sum_spending_transactions_with_account`. -/
def sumSpendingTransactionsWithAccount (transactions : List TransactionWithAccount)
    (startDate endDate : Option NaiveDate) : Decimal :=
  ((transactions.filter fun t ↦
    inDateRange startDate endDate t && isSpendingTransactionWithAccount t).map
      getSpendingAmountWithAccount).sum

/-! ### By category -/

/-- `CategorySpending`. -/
structure CategorySpending where
  name : String
  value : Decimal
deriving DecidableEq, Repr

/-- `group_transactions_with_account_by_effective_category`. -/
def groupTransactionsWithAccountByEffectiveCategory (transactions : List TransactionWithAccount)
    (startDate endDate : Option NaiveDate) : List CategorySpending :=
  let categoryMap := transactions.foldl
    (fun m t ↦
      if !isSpendingTransactionWithAccount t then m
      else if !inDateRange startDate endDate t then m
      else AssocMap.addTo (getEffectiveCategoryName t) (getSpendingAmountWithAccount t) m)
    []
  categoryMap.map fun entry ↦ { name := entry.1, value := entry.2 }

/-! ### By month and category -/

/-- `CategoryMonthlySpending`. -/
structure CategoryMonthlySpending where
  month : String
  category : String
  amount : Decimal
deriving DecidableEq, Repr

/-- `format!("{}-{:02}", date.year(), date.month())`. -/
def monthKey (d : NaiveDate) : String :=
  toString (NaiveDate.year d) ++ "-" ++
    (if NaiveDate.month d < 10 then "0" else "") ++ toString (NaiveDate.month d)

/-- The date filter of the monthly loop: each bound is applied if it is given. -/
def isOutside (startDate endDate : Option NaiveDate) (t : TransactionWithAccount) : Bool :=
  startDate.any (fun s ↦ t.date < s) || endDate.any fun e ↦ e < t.date

/-- `calculate_monthly_category_totals_with_account`. -/
def calculateMonthlyCategoryTotalsWithAccount (transactions : List TransactionWithAccount)
    (startDate endDate : Option NaiveDate) : List CategoryMonthlySpending :=
  let totals := transactions.foldl
    (fun m t ↦
      if !isSpendingTransactionWithAccount t then m
      else if isOutside startDate endDate t then m
      else AssocMap.addTo (monthKey t.date, getEffectiveCategoryName t)
        (getSpendingAmountWithAccount t) m)
    []
  (totals.map fun entry ↦
    { month := entry.1.1
      category := entry.1.2
      amount := entry.2 : CategoryMonthlySpending }).insertionSort
    (OrderBy.thenBy (OrderBy.asc fun r ↦ r.month) (OrderBy.asc fun r ↦ r.category))

/-! ### By merchant -/

/-- `TopMerchant`. The percentage is a number of tenths. -/
structure TopMerchant where
  name : String
  amount : Decimal
  count : ℕ
  percentage : ℤ
deriving DecidableEq, Repr

/-- `merchant_map`: the amount and the number of the transactions of each merchant. -/
def merchantMap (transactions : List TransactionWithAccount)
    (startDate endDate : Option NaiveDate) : List (String × Decimal × ℕ) :=
  transactions.foldl
    (fun m t ↦
      if !inDateRange startDate endDate t then m
      else if !isSpendingTransactionWithAccount t then m
      else AssocMap.addTo (t.merchantName.getD "Unknown Merchant")
        (getSpendingAmountWithAccount t, 1) m)
    []

/-- `get_top_merchants_with_account_date_range`. -/
def getTopMerchantsWithAccountDateRange (transactions : List TransactionWithAccount)
    (startDate endDate : Option NaiveDate) (limit : ℕ) : List TopMerchant :=
  let merchants := merchantMap transactions startDate endDate
  let totalSpend := (merchants.map fun entry ↦ entry.2.1).sum
  ((merchants.map fun entry ↦
    { name := entry.1
      amount := entry.2.1
      count := entry.2.2
      -- tenths of a percent are thousandths
      percentage := if 0 < totalSpend then round2Quotient (10 * entry.2.1) totalSpend else 0
      : TopMerchant }).insertionSort (OrderBy.desc fun r ↦ r.amount)).take limit

/-! ### By day of a month -/

/-- `DailySpending`. -/
structure DailySpending where
  day : ℕ
  spend : Decimal
  cumulative : Decimal
deriving DecidableEq, Repr

/-- `totals[idx] += amount`, which panics on an index out of bounds. -/
def addAt (idx : ℕ) (amount : Decimal) (totals : List Decimal) : Option (List Decimal) :=
  if idx < totals.length then some (totals.modify idx (· + amount)) else none

/-- The days of a month after the first `i`, of which the spending adds up to `cumulative`. -/
def cumulate (i : ℕ) (cumulative : Decimal) : List Decimal → List DailySpending
  | [] => []
  | spend :: totals =>
    { day := i + 1, spend := spend, cumulative := cumulative + spend } ::
      cumulate (i + 1) (cumulative + spend) totals

/-- `calculate_daily_spending_with_account`, unless it panics. -/
def calculateDailySpendingWithAccount (transactions : List TransactionWithAccount) (year : ℤ)
    (month : ℕ) : Option (List DailySpending) := do
  let nextYear ← NaiveDate.fromYmdOpt (year + 1) 1 1
  let last ← NaiveDate.predOpt ((NaiveDate.fromYmdOpt year (month + 1) 1).getD nextYear)
  let totals ← transactions.foldlM
    (fun totals t ↦
      if NaiveDate.year t.date = year ∧ NaiveDate.month t.date = month ∧
          isSpendingTransactionWithAccount t then
        addAt (NaiveDate.day t.date - 1) (getSpendingAmountWithAccount t) totals
      else some totals)
    (List.replicate (NaiveDate.day last) 0)
  return cumulate 0 0 totals

end Sumurai
