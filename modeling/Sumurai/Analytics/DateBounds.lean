import Sumurai.Analytics.SpendingTotals

/-!
# One date bound

Four aggregations of the spending take an optional first and an optional last day. The monthly one
applies each of the two if it is given. The other three apply them if both are given, and none of
them otherwise: a query from a day on, or up to one, is a query without bounds to them.

`sameBounds_iff` says when the four still count the same transactions. The two readings differ on
every transaction that is spending and lies outside of the one bound given.
-/

namespace Sumurai

variable {transactions : List TransactionWithAccount} {startDate endDate : Option NaiveDate}

/-- Each aggregation is that of the transactions within the bounds that are given: it is what it
would be, without bounds, of these transactions alone. -/
structure SameBounds (transactions : List TransactionWithAccount)
    (startDate endDate : Option NaiveDate) : Prop where
  sum : sumSpendingTransactionsWithAccount transactions startDate endDate =
    sumSpendingTransactionsWithAccount (spendingWithin transactions startDate endDate) none none
  categories : groupTransactionsWithAccountByEffectiveCategory transactions startDate endDate =
    groupTransactionsWithAccountByEffectiveCategory
      (spendingWithin transactions startDate endDate) none none
  merchants : ∀ limit, getTopMerchantsWithAccountDateRange transactions startDate endDate limit =
    getTopMerchantsWithAccountDateRange (spendingWithin transactions startDate endDate) none none
      limit
  monthly : calculateMonthlyCategoryTotalsWithAccount transactions startDate endDate =
    calculateMonthlyCategoryTotalsWithAccount (spendingWithin transactions startDate endDate) none
      none

/-! ### What an aggregation depends on -/

theorem spendingInRange_none (transactions : List TransactionWithAccount) :
    spendingInRange transactions none none =
      transactions.filter isSpendingTransactionWithAccount :=
  rfl

theorem spendingWithin_none (transactions : List TransactionWithAccount) :
    spendingWithin transactions none none =
      transactions.filter isSpendingTransactionWithAccount :=
  rfl

/-- Without bounds everything within the bounds counts. -/
theorem filter_spendingWithin :
    (spendingWithin transactions startDate endDate).filter isSpendingTransactionWithAccount =
      spendingWithin transactions startDate endDate := by
  refine List.filter_eq_self.2 fun t ht ↦ ?_
  have hkeep := (List.mem_filter.1 ht).2
  rw [Bool.and_eq_true] at hkeep
  exact hkeep.2

/-- Three aggregations depend on what is in the range alone. -/
theorem SameBounds.of_eq (h : spendingInRange transactions startDate endDate =
    spendingWithin transactions startDate endDate) :
    SameBounds transactions startDate endDate := by
  have hrange : spendingInRange transactions startDate endDate =
      spendingInRange (spendingWithin transactions startDate endDate) none none := by
    rw [spendingInRange_none, filter_spendingWithin, h]
  have hmerchants : merchantMap transactions startDate endDate =
      merchantMap (spendingWithin transactions startDate endDate) none none := by
    rw [merchantMap_eq_tally, hrange, ← merchantMap_eq_tally]
  refine ⟨?_, ?_, fun limit ↦ ?_, ?_⟩
  · rw [sumSpending_eq, hrange, ← sumSpending_eq]
  · rw [categories_eq_tally, hrange, ← categories_eq_tally]
  · rw [getTopMerchantsWithAccountDateRange, hmerchants]
    rfl
  · rw [monthly_eq_tally, monthly_eq_tally, spendingWithin_none, filter_spendingWithin]

/-! ### What an aggregation tells -/

/-- The merchants number the transactions that are counted. -/
theorem sum_merchant_counts {limit : ℕ}
    (hlimit : (merchantMap transactions startDate endDate).length ≤ limit) :
    ((getTopMerchantsWithAccountDateRange transactions startDate endDate limit).map
      TopMerchant.count).sum = (spendingInRange transactions startDate endDate).length := by
  have hsnd := congrArg (AddMonoidHom.snd Decimal ℕ)
    (@sum_merchantMap transactions startDate endDate)
  rw [map_list_sum, map_list_sum, List.map_map, List.map_map] at hsnd
  have hones : ∀ l : List TransactionWithAccount, (l.map fun _ ↦ 1).sum = l.length :=
    fun l ↦ by rw [List.map_const', List.sum_replicate_nat, Nat.mul_one]
  rw [getTopMerchantsWithAccountDateRange, List.take_of_length_le (by
    rw [List.length_insertionSort, List.length_map]; exact hlimit),
    ((List.perm_insertionSort _ _).map TopMerchant.count).sum_eq, List.map_map, ← hones]
  exact hsnd

/-- If the merchants are those of the transactions within the bounds, then the numbers of the
transactions are the same. -/
theorem SameBounds.length_eq (h : SameBounds transactions startDate endDate) :
    (spendingInRange transactions startDate endDate).length =
      (spendingWithin transactions startDate endDate).length := by
  have hcounts := congrArg (fun l ↦ (l.map TopMerchant.count).sum) (h.merchants
    (max (merchantMap transactions startDate endDate).length
      (merchantMap (spendingWithin transactions startDate endDate) none none).length))
  rwa [sum_merchant_counts (le_max_left _ _), sum_merchant_counts (le_max_right _ _),
    spendingInRange_none, filter_spendingWithin] at hcounts

/-! ### When the two filters are one -/

/-- One bound alone is not applied. -/
theorem spendingInRange_of_ne (h : startDate.isSome ≠ endDate.isSome) :
    spendingInRange transactions startDate endDate =
      transactions.filter isSpendingTransactionWithAccount := by
  cases startDate with
  | none =>
    cases endDate with
    | none => exact absurd rfl h
    | some e => rfl
  | some s =>
    cases endDate with
    | none => rfl
    | some e => exact absurd rfl h

theorem spendingWithin_eq_filter :
    spendingWithin transactions startDate endDate =
      (transactions.filter isSpendingTransactionWithAccount).filter fun t ↦
        !isOutside startDate endDate t := by
  rw [List.filter_filter, spendingWithin]

/-- Two bounds, or none, are the same to both filters. -/
theorem spendingInRange_eq_of_eq (h : startDate.isSome = endDate.isSome) :
    spendingInRange transactions startDate endDate =
      spendingWithin transactions startDate endDate := by
  cases startDate with
  | none =>
    cases endDate with
    | none => rfl
    | some e => exact absurd h Bool.false_ne_true
  | some s =>
    cases endDate with
    | none => exact absurd h.symm Bool.false_ne_true
    | some e => exact (spendingWithin_some s e).symm

/-- **When the date bounds mean the same everywhere.** The sum, the categories, the merchants and
the months are those of the transactions within the bounds that are given if and only if both bounds
are given or none, or all spending lies within the one that is given. -/
theorem sameBounds_iff (transactions : List TransactionWithAccount)
    (startDate endDate : Option NaiveDate) :
    SameBounds transactions startDate endDate ↔
      startDate.isSome = endDate.isSome ∨
        ∀ t ∈ transactions, isSpendingTransactionWithAccount t →
          isOutside startDate endDate t = false := by
  by_cases hboth : startDate.isSome = endDate.isSome
  · exact iff_of_true (SameBounds.of_eq (spendingInRange_eq_of_eq hboth)) (Or.inl hboth)
  · rw [or_iff_right hboth]
    have hinside : (∀ t ∈ transactions, isSpendingTransactionWithAccount t →
        isOutside startDate endDate t = false) ↔
        ∀ t ∈ transactions.filter isSpendingTransactionWithAccount,
          (!isOutside startDate endDate t) = true := by
      simp only [List.mem_filter, and_imp, Bool.not_eq_true']
    rw [hinside]
    constructor
    · intro h
      have hlength := h.length_eq
      rw [spendingInRange_of_ne hboth, spendingWithin_eq_filter] at hlength
      exact List.length_filter_eq_length_iff.1 hlength.symm
    · intro hall
      refine SameBounds.of_eq ?_
      rw [spendingInRange_of_ne hboth, spendingWithin_eq_filter, List.filter_eq_self.2 hall]

/-! ### A query from a day on -/

/-- **A purchase before the first day.** From day 10 on there is no spending in the months, and a
purchase of day 3 in the sum. -/
theorem purchase_before_start :
    calculateMonthlyCategoryTotalsWithAccount [phoneBill 3 none 5000] (some 10) none = [] ∧
      sumSpendingTransactionsWithAccount [phoneBill 3 none 5000] (some 10) none = 5000 ∧
      ¬SameBounds [phoneBill 3 none 5000] (some 10) none := by
  refine ⟨by decide, by decide, fun h ↦ ?_⟩
  exact absurd h.sum (by decide)

end Sumurai
