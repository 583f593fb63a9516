import Sumurai.Analytics.SpendingTotals
import Sumurai.Foundations.Cuts
import Sumurai.Foundations.DecimalText
import Sumurai.Models.Months

/-!
# The totals of the last months

`calculate_monthly_totals_with_account` puts the spending into one bucket a month, sorts the buckets
by the text of the month, and cuts the list off after the number of months asked for. The text
starts with the year, so the months that are left are the first ones, and not the last.

`monthlyTotals_eq_recent_iff` says exactly when the result is that of the most recent months. With
years of four digits, whose text is in the order of time, it is where no month is cut off at all, or
every one (`monthlyTotals_eq_recent_iff_of_fourDigits`).
-/

namespace Sumurai

/-- `MonthlySpending`. -/
structure MonthlySpending where
  month : String
  total : Decimal
deriving DecidableEq, Repr

/-- `calculate_monthly_totals_with_account`. -/
def calculateMonthlyTotalsWithAccount (transactions : List TransactionWithAccount)
    (months : ℕ) : List MonthlySpending :=
  let monthlyTotals := transactions.foldl
    (fun m t ↦
      if !isSpendingTransactionWithAccount t then m
      else AssocMap.addTo (monthKey t.date) (getSpendingAmountWithAccount t) m)
    []
  let result := (monthlyTotals.map fun entry ↦
    { month := entry.1, total := entry.2 : MonthlySpending }).insertionSort
      (OrderBy.asc fun r ↦ r.month)
  if months < result.length then result.take months else result

/-! ### Months -/

/-- The text of a month. -/
def monthLabel (i : ℤ) : String :=
  toString (i / 12) ++ "-" ++
    (if (i % 12).toNat + 1 < 10 then "0" else "") ++ toString ((i % 12).toNat + 1)

theorem monthKey_eq (d : NaiveDate) : monthKey d = monthLabel (monthIndex d) := by
  obtain ⟨hyear, hmonth⟩ := NaiveDate.monthIndex_eq_iff.1 (rfl : monthIndex d = monthIndex d)
  rw [monthLabel, ← hyear, ← hmonth]
  rfl

/-- The text of a month after the year. -/
def monthSuffix (m : ℕ) : List Char :=
  '-' :: ((if m + 1 < 10 then "0" else "") ++ toString (m + 1)).toList

theorem toList_monthLabel (i : ℤ) :
    (monthLabel i).toList = (toString (i / 12)).toList ++ monthSuffix (i % 12).toNat := by
  rw [monthLabel, monthSuffix, String.append_assoc, String.append_assoc, String.toList_append,
    String.toList_append]
  rfl

theorem monthSuffix_table : ∀ m < 12, (monthSuffix m).length = 3 ∧
    ∀ m' < 12, (monthSuffix m < monthSuffix m' ↔ m < m') ∧
      (monthSuffix m = monthSuffix m' → m = m') := by
  decide

theorem monthLabel_injective : Function.Injective monthLabel := by
  intro i j h
  have hi : (i % 12).toNat < 12 := by omega
  have hj : (j % 12).toNat < 12 := by omega
  obtain ⟨hlength, htable⟩ := monthSuffix_table _ hi
  have htext := congrArg String.toList h
  rw [toList_monthLabel, toList_monthLabel] at htext
  obtain ⟨hyear, hmonth⟩ := List.append_inj' htext
    (hlength.trans (monthSuffix_table _ hj).1.symm)
  have hdiv : i / 12 = j / 12 := Text.toString_int_injective hyear
  have hmod : (i % 12).toNat = (j % 12).toNat := (htable _ hj).2 hmonth
  omega

/-! ### The most recent months -/

/-- The months that have spending. -/
def spendingMonths (transactions : List TransactionWithAccount) : List ℤ :=
  ((transactions.filter isSpendingTransactionWithAccount).map fun t ↦ monthIndex t.date).dedup

/-- A month with the sum of its spending. -/
def monthRow (transactions : List TransactionWithAccount) (i : ℤ) : MonthlySpending where
  month := monthLabel i
  total := (((transactions.filter isSpendingTransactionWithAccount).filter fun t ↦
    monthIndex t.date = i).map getSpendingAmountWithAccount).sum

/-- The `n` most recent of the months that have spending, in the order of time, each with the sum of
its spending. -/
def recentMonthlyTotals (transactions : List TransactionWithAccount) (n : ℕ) :
    List MonthlySpending :=
  (((spendingMonths transactions).insertionSort (· ≤ ·)).drop
    ((spendingMonths transactions).length - n)).map (monthRow transactions)

/-- A month is one of the `n` most recent ones that have spending. -/
def IsRecentMonth (transactions : List TransactionWithAccount) (n : ℕ) (i : ℤ) : Prop :=
  ((spendingMonths transactions).filter fun j ↦ i < j).length < n

section Rows

variable (transactions : List TransactionWithAccount)

theorem monthRow_injective : Function.Injective (monthRow transactions) := fun _ _ h ↦
  monthLabel_injective (congrArg MonthlySpending.month h)

/-- The buckets are the months that have spending. -/
theorem buckets_perm :
    ((AssocMap.tally (fun t ↦ monthKey t.date) getSpendingAmountWithAccount
      (transactions.filter isSpendingTransactionWithAccount)).map fun entry ↦
        { month := entry.1, total := entry.2 : MonthlySpending }).Perm
      ((spendingMonths transactions).map (monthRow transactions)) := by
  have hkeys : ((transactions.filter isSpendingTransactionWithAccount).map fun t ↦
      monthKey t.date).dedup = (spendingMonths transactions).map monthLabel := by
    rw [spendingMonths, ← List.dedup_map_of_injective monthLabel_injective, List.map_map]
    exact congrArg List.dedup (List.map_congr_left fun t _ ↦ monthKey_eq t.date)
  have hperm := (AssocMap.tally_perm_map (fun t ↦ monthKey t.date) getSpendingAmountWithAccount
    (transactions.filter isSpendingTransactionWithAccount)).map fun entry ↦
      { month := entry.1, total := entry.2 : MonthlySpending }
  rw [hkeys, List.map_map, List.map_map] at hperm
  refine hperm.trans (List.Perm.of_eq (List.map_congr_left fun i _ ↦ ?_))
  have hfilter : (transactions.filter isSpendingTransactionWithAccount).filter
        (fun t ↦ monthKey t.date = monthLabel i) =
      (transactions.filter isSpendingTransactionWithAccount).filter
        fun t ↦ monthIndex t.date = i := by
    refine List.filter_congr fun t _ ↦ decide_eq_decide.2 ?_
    rw [monthKey_eq]
    exact monthLabel_injective.eq_iff
  rw [monthRow, ← hfilter]
  rfl

/-- The result of the code: the first months by their text. -/
theorem monthlyTotals_eq (n : ℕ) :
    calculateMonthlyTotalsWithAccount transactions n =
      (((spendingMonths transactions).insertionSort (OrderBy.asc monthLabel)).take n).map
        (monthRow transactions) := by
  have hloop : (fun m t ↦
      if !isSpendingTransactionWithAccount t then m
      else AssocMap.addTo (monthKey t.date) (getSpendingAmountWithAccount t) m) =
      fun m t ↦ if isSpendingTransactionWithAccount t then
        AssocMap.addTo (monthKey t.date) (getSpendingAmountWithAccount t) m else m := by
    funext m t
    cases isSpendingTransactionWithAccount t <;> rfl
  have hsort := List.map_insertionSort (OrderBy.asc monthLabel)
    (OrderBy.asc MonthlySpending.month) (monthRow transactions) (spendingMonths transactions)
    fun _ _ _ _ ↦ Iff.rfl
  have hrows : ((AssocMap.tally (fun t ↦ monthKey t.date) getSpendingAmountWithAccount
      (transactions.filter isSpendingTransactionWithAccount)).map fun entry ↦
        { month := entry.1, total := entry.2 : MonthlySpending }).insertionSort
          (OrderBy.asc MonthlySpending.month) =
      ((spendingMonths transactions).insertionSort (OrderBy.asc monthLabel)).map
        (monthRow transactions) := by
    rw [hsort]
    refine List.Perm.eq_of_pairwise (fun a b ha hb hab hba ↦ ?_)
      (List.pairwise_insertionSort _ _) (List.pairwise_insertionSort _ _)
      ((List.perm_insertionSort _ _).trans ((buckets_perm transactions).trans
        (List.perm_insertionSort _ _).symm))
    -- a month has one row
    rw [List.mem_insertionSort] at ha hb
    obtain ⟨i, -, rfl⟩ := List.mem_map.1 ((buckets_perm transactions).mem_iff.1 ha)
    obtain ⟨j, -, rfl⟩ := List.mem_map.1 hb
    rw [monthLabel_injective (le_antisymm hab hba)]
  rw [calculateMonthlyTotalsWithAccount, hloop,
    AssocMap.foldl_addTo_if _ (fun t : TransactionWithAccount ↦ monthKey t.date)]
  show (if n < (List.insertionSort (OrderBy.asc MonthlySpending.month) _).length then _ else _) = _
  rw [hrows, List.map_take]
  split
  · rfl
  · rename_i hle
    rw [List.take_of_length_le (not_lt.1 hle)]

end Rows

/-- **When the totals are those of the most recent months.** The result of the code is that of the
`n` most recent months if and only if of any two months that have spending, of which the later one
is recent, the earlier one comes first in the order of the text exactly if it is recent, too. -/
theorem monthlyTotals_eq_recent_iff (transactions : List TransactionWithAccount) (n : ℕ) :
    calculateMonthlyTotalsWithAccount transactions n = recentMonthlyTotals transactions n ↔
      ∀ i ∈ spendingMonths transactions, ∀ j ∈ spendingMonths transactions, i < j →
        IsRecentMonth transactions n j →
          (monthLabel i < monthLabel j ↔ IsRecentMonth transactions n i) := by
  rw [monthlyTotals_eq, recentMonthlyTotals, (monthRow_injective transactions).list_map.eq_iff]
  exact Cuts.take_eq_drop_iff (List.nodup_dedup _) monthLabel_injective n

/-! ### Years of four digits -/

section FourDigits

theorem toList_monthLabel_of_fourDigits {i : ℤ} (h : 1000 ≤ i / 12 ∧ i / 12 ≤ 9999) :
    (monthLabel i).toList = Text.padded 4 (i / 12).toNat ++ monthSuffix (i % 12).toNat := by
  have hyear : i / 12 = Int.ofNat (i / 12).toNat := (Int.toNat_of_nonneg (by omega)).symm
  rw [toList_monthLabel]
  congr 1
  rw [hyear, Text.toList_toString_ofNat, Text.toDigits_eq_padded (w := 3) (by omega) (by omega)]
  rfl

/-- With years of four digits the order of the text is that of time. -/
theorem monthLabel_lt_iff {i j : ℤ} (hi : 1000 ≤ i / 12 ∧ i / 12 ≤ 9999)
    (hj : 1000 ≤ j / 12 ∧ j / 12 ≤ 9999) : monthLabel i < monthLabel j ↔ i < j := by
  have himod : (i % 12).toNat < 12 := by omega
  have hjmod : (j % 12).toNat < 12 := by omega
  rw [String.lt_iff_toList_lt, toList_monthLabel_of_fourDigits hi,
    toList_monthLabel_of_fourDigits hj, Text.padded_append_lt_iff (by omega) (by omega),
    ((monthSuffix_table _ himod).2 _ hjmod).1]
  omega

/-- **The oldest months instead of the most recent ones.** With years of four digits the result is
that of the `n` most recent months only where no month is cut off, or every one. -/
theorem monthlyTotals_eq_recent_iff_of_fourDigits {transactions : List TransactionWithAccount}
    {n : ℕ} (h : ∀ i ∈ spendingMonths transactions, 1000 ≤ i / 12 ∧ i / 12 ≤ 9999) :
    calculateMonthlyTotalsWithAccount transactions n = recentMonthlyTotals transactions n ↔
      n = 0 ∨ (spendingMonths transactions).length ≤ n := by
  have hnodup : (spendingMonths transactions).Nodup := List.nodup_dedup _
  rw [monthlyTotals_eq_recent_iff, ← Cuts.isTop_downward_iff hnodup]
  refine forall₂_congr fun i hi ↦ forall₂_congr fun j hj ↦ forall₂_congr fun hij hrecent ↦ ?_
  exact iff_true_left ((monthLabel_lt_iff (h i hi) (h j hj)).2 hij)

end FourDigits

/-! ### Two months, and one is asked for -/

/-- **The oldest month.** With a purchase in January and one in February of 1970, the last month
asked for is January. -/
theorem january_is_last :
    calculateMonthlyTotalsWithAccount [phoneBill 3 none 5000, phoneBill 40 none 5000] 1 =
        [{ month := "1970-01", total := 5000 }] ∧
      recentMonthlyTotals [phoneBill 3 none 5000, phoneBill 40 none 5000] 1 =
        [{ month := "1970-02", total := 5000 }] := by
  decide

end Sumurai
