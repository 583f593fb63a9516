import Sumurai.Analytics.SpendingTotals
import Sumurai.Foundations.Cuts

/-!
# The top merchants

The merchants are collected in a hash map, ranked by their amounts and cut off at a limit. The sort
is stable, and the order before it is that of the map, which is a different one in every run of the
program. So merchants of equal amounts come out in any order, and at the limit one or the other of
them is left out.

`topMerchants_iff` says when the answer is one and the same: no two merchants of equal amounts may
have a place within the limit. That it is sorted, and that no merchant with a larger amount is left
out, holds in any case.
-/

namespace Sumurai

/-- What `get_top_merchants_with_account_date_range` does with the merchants, in the order in which
the map is iterated. -/
def rankMerchants (merchants : List (String × Decimal × ℕ)) (limit : ℕ) : List TopMerchant :=
  let totalSpend := (merchants.map fun entry ↦ entry.2.1).sum
  ((merchants.map fun entry ↦
    { name := entry.1
      amount := entry.2.1
      count := entry.2.2
      percentage := if 0 < totalSpend then round2Quotient (10 * entry.2.1) totalSpend else 0
      : TopMerchant }).insertionSort (OrderBy.desc fun r ↦ r.amount)).take limit

theorem getTopMerchants_eq (transactions : List TransactionWithAccount)
    (startDate endDate : Option NaiveDate) (limit : ℕ) :
    getTopMerchantsWithAccountDateRange transactions startDate endDate limit =
      rankMerchants (merchantMap transactions startDate endDate) limit :=
  rfl

/-- The merchants of a date range. -/
def spendingMerchants (transactions : List TransactionWithAccount)
    (startDate endDate : Option NaiveDate) : List String :=
  ((spendingInRange transactions startDate endDate).map spendingMerchant).dedup

/-- What has been spent at a merchant. -/
def merchantSpend (transactions : List TransactionWithAccount)
    (startDate endDate : Option NaiveDate) (name : String) : Decimal :=
  (((spendingInRange transactions startDate endDate).filter fun t ↦
    spendingMerchant t = name).map getSpendingAmountWithAccount).sum

/-- The list of the top merchants is well defined. -/
structure TopWellDefined (transactions : List TransactionWithAccount)
    (startDate endDate : Option NaiveDate) (limit : ℕ) : Prop where
  /-- Neither the order of the transactions matters nor that of the map. -/
  unique : ∀ transactions' : List TransactionWithAccount, transactions'.Perm transactions →
    ∀ merchants : List (String × Decimal × ℕ),
      merchants.Perm (merchantMap transactions' startDate endDate) →
        rankMerchants merchants limit =
          getTopMerchantsWithAccountDateRange transactions startDate endDate limit
  sorted : (getTopMerchantsWithAccountDateRange transactions startDate endDate limit).Pairwise
    fun r r' ↦ r'.amount ≤ r.amount
  /-- No merchant that is left out has a larger amount than one that is not. -/
  top : ∀ name ∈ spendingMerchants transactions startDate endDate,
    name ∉ (getTopMerchantsWithAccountDateRange transactions startDate endDate limit).map
      TopMerchant.name →
    ∀ r ∈ getTopMerchantsWithAccountDateRange transactions startDate endDate limit,
      merchantSpend transactions startDate endDate name ≤ r.amount

/-! ### The ranking -/

/-- A merchant of the map as a row of the answer, of which the percentage is that of a total. -/
def merchantRow (totalSpend : Decimal) (entry : String × Decimal × ℕ) : TopMerchant where
  name := entry.1
  amount := entry.2.1
  count := entry.2.2
  percentage := if 0 < totalSpend then round2Quotient (10 * entry.2.1) totalSpend else 0

theorem merchantRow_injective (totalSpend : Decimal) :
    Function.Injective (merchantRow totalSpend) := fun _ _ h ↦
  Prod.ext (congrArg TopMerchant.name h)
    (Prod.ext (congrArg TopMerchant.amount h) (congrArg TopMerchant.count h))

/-- The amount of an entry of the map. -/
def entryAmount (entry : String × Decimal × ℕ) : Decimal :=
  entry.2.1

/-- The ranking, as a choice from the map. -/
theorem rankMerchants_eq (merchants : List (String × Decimal × ℕ)) (limit : ℕ) :
    rankMerchants merchants limit =
      ((merchants.insertionSort (OrderBy.desc entryAmount)).take limit).map
        (merchantRow (merchants.map entryAmount).sum) := by
  have hsort := List.map_insertionSort (OrderBy.desc entryAmount)
    (OrderBy.desc TopMerchant.amount) (merchantRow (merchants.map entryAmount).sum) merchants
    fun _ _ _ _ ↦ Iff.rfl
  rw [List.map_take, hsort]
  rfl

/-- **When a ranking does not depend on the order of the map.** -/
theorem rankMerchants_unique_iff (merchants : List (String × Decimal × ℕ)) (limit : ℕ) :
    (∀ merchants' : List (String × Decimal × ℕ), merchants'.Perm merchants →
      rankMerchants merchants' limit = rankMerchants merchants limit) ↔
      ∀ a ∈ merchants, ∀ b ∈ merchants, entryAmount a = entryAmount b →
        Cuts.IsTop entryAmount limit merchants a → a = b := by
  rw [← Cuts.take_perm_iff]
  refine forall₂_congr fun merchants' hperm ↦ ?_
  rw [rankMerchants_eq, rankMerchants_eq, (hperm.map entryAmount).sum_eq,
    (merchantRow_injective _).list_map.eq_iff]

/-! ### The merchants of the map -/

section Merchants

variable {transactions transactions' : List TransactionWithAccount}
  {startDate endDate : Option NaiveDate} {limit : ℕ}

/-- The entry of a merchant. -/
def merchantEntry (transactions : List TransactionWithAccount)
    (startDate endDate : Option NaiveDate) (name : String) : String × Decimal × ℕ :=
  (name, (((spendingInRange transactions startDate endDate).filter fun t ↦
    spendingMerchant t = name).map fun t ↦ (getSpendingAmountWithAccount t, 1)).sum)

theorem entryAmount_merchantEntry (name : String) :
    entryAmount (merchantEntry transactions startDate endDate name) =
      merchantSpend transactions startDate endDate name := by
  have hfst := map_list_sum (AddMonoidHom.fst Decimal ℕ)
    (((spendingInRange transactions startDate endDate).filter fun t ↦
      spendingMerchant t = name).map fun t ↦ ((getSpendingAmountWithAccount t, 1) : Decimal × ℕ))
  rw [List.map_map] at hfst
  exact hfst

theorem merchantEntry_injective :
    Function.Injective (merchantEntry transactions startDate endDate) := fun _ _ h ↦
  congrArg Prod.fst h

/-- The map has an entry for each merchant. -/
theorem merchantMap_perm_map :
    (merchantMap transactions startDate endDate).Perm
      ((spendingMerchants transactions startDate endDate).map
        (merchantEntry transactions startDate endDate)) := by
  rw [merchantMap_eq_tally]
  exact AssocMap.tally_perm_map _ _ _

/-- The order of the transactions does not matter to the map, but for its own order. -/
theorem merchantMap_perm (h : transactions'.Perm transactions) :
    (merchantMap transactions' startDate endDate).Perm
      (merchantMap transactions startDate endDate) := by
  rw [merchantMap_eq_tally, merchantMap_eq_tally]
  exact AssocMap.tally_perm _ _ (h.filter _)

theorem isTop_merchantEntry (name : String) :
    Cuts.IsTop entryAmount limit (merchantMap transactions startDate endDate)
        (merchantEntry transactions startDate endDate name) ↔
      ((spendingMerchants transactions startDate endDate).filter fun other ↦
        merchantSpend transactions startDate endDate name <
          merchantSpend transactions startDate endDate other).length < limit := by
  have hlarger : ((fun entry ↦ decide (entryAmount
      (merchantEntry transactions startDate endDate name) < entryAmount entry)) ∘
        merchantEntry transactions startDate endDate) = fun other ↦
          decide (merchantSpend transactions startDate endDate name <
            merchantSpend transactions startDate endDate other) := by
    funext other
    rw [Function.comp_apply, entryAmount_merchantEntry, entryAmount_merchantEntry]
  rw [Cuts.isTop_perm merchantMap_perm_map, Cuts.IsTop, List.filter_map, List.length_map, hlarger]

/-- The same, said of the merchants: no two with equal sums have a place within the limit. -/
theorem unique_iff_merchants :
    (∀ a ∈ merchantMap transactions startDate endDate,
      ∀ b ∈ merchantMap transactions startDate endDate, entryAmount a = entryAmount b →
        Cuts.IsTop entryAmount limit (merchantMap transactions startDate endDate) a → a = b) ↔
      ∀ name ∈ spendingMerchants transactions startDate endDate,
        ∀ other ∈ spendingMerchants transactions startDate endDate,
          merchantSpend transactions startDate endDate name =
              merchantSpend transactions startDate endDate other →
            ((spendingMerchants transactions startDate endDate).filter fun third ↦
              merchantSpend transactions startDate endDate name <
                merchantSpend transactions startDate endDate third).length < limit →
            name = other := by
  have hmem : ∀ {P : String × Decimal × ℕ → Prop},
      (∀ a ∈ merchantMap transactions startDate endDate, P a) ↔
        ∀ name ∈ spendingMerchants transactions startDate endDate,
          P (merchantEntry transactions startDate endDate name) := by
    intro P
    simp only [merchantMap_perm_map.mem_iff, List.forall_mem_map]
  rw [hmem]
  refine forall₂_congr fun name _ ↦ ?_
  rw [hmem]
  refine forall₂_congr fun other _ ↦ ?_
  rw [entryAmount_merchantEntry, entryAmount_merchantEntry, isTop_merchantEntry,
    merchantEntry_injective.eq_iff]

/-! ### The answer -/

/-- The answer is sorted. -/
theorem topMerchants_sorted :
    (getTopMerchantsWithAccountDateRange transactions startDate endDate limit).Pairwise
      fun r r' ↦ r'.amount ≤ r.amount := by
  rw [getTopMerchants_eq, rankMerchants_eq, List.pairwise_map]
  exact (List.pairwise_insertionSort (OrderBy.desc entryAmount) _).sublist (List.take_sublist _ _)

/-- What is left out is not larger than what is not. -/
theorem topMerchants_top {name : String}
    (hname : name ∈ spendingMerchants transactions startDate endDate)
    (hout : name ∉ (getTopMerchantsWithAccountDateRange transactions startDate endDate limit).map
      TopMerchant.name)
    {r : TopMerchant}
    (hr : r ∈ getTopMerchantsWithAccountDateRange transactions startDate endDate limit) :
    merchantSpend transactions startDate endDate name ≤ r.amount := by
  rw [getTopMerchants_eq, rankMerchants_eq] at hout hr
  have hsorted := List.pairwise_insertionSort (OrderBy.desc entryAmount)
    (merchantMap transactions startDate endDate)
  have hentry : merchantEntry transactions startDate endDate name ∈
      (merchantMap transactions startDate endDate).insertionSort (OrderBy.desc entryAmount) :=
    (List.mem_insertionSort _).2 (merchantMap_perm_map.mem_iff.2 (List.mem_map_of_mem hname))
  generalize (merchantMap transactions startDate endDate).insertionSort
    (OrderBy.desc entryAmount) = ranked at *
  have hdrop : merchantEntry transactions startDate endDate name ∈ ranked.drop limit := by
    rw [← List.take_append_drop limit ranked] at hentry
    refine (List.mem_append.1 hentry).resolve_left fun htake ↦ hout ?_
    exact List.mem_map.2 ⟨_, List.mem_map_of_mem htake, rfl⟩
  obtain ⟨entry, hentry, rfl⟩ := List.mem_map.1 hr
  rw [← List.take_append_drop limit ranked] at hsorted
  have hle := (List.pairwise_append.1 hsorted).2.2 entry hentry _ hdrop
  rwa [OrderBy.desc, entryAmount_merchantEntry] at hle

end Merchants

/-- **When the top merchants are well defined.** The list is the same for every order of the
transactions and of the map if and only if no two merchants at which equal sums have been spent have
a place within the limit. -/
theorem topMerchants_iff (transactions : List TransactionWithAccount)
    (startDate endDate : Option NaiveDate) (limit : ℕ) :
    TopWellDefined transactions startDate endDate limit ↔
      ∀ name ∈ spendingMerchants transactions startDate endDate,
        ∀ other ∈ spendingMerchants transactions startDate endDate,
          merchantSpend transactions startDate endDate name =
              merchantSpend transactions startDate endDate other →
            ((spendingMerchants transactions startDate endDate).filter fun third ↦
              merchantSpend transactions startDate endDate name <
                merchantSpend transactions startDate endDate third).length < limit →
            name = other := by
  rw [← unique_iff_merchants, ← rankMerchants_unique_iff]
  constructor
  · intro h merchants hperm
    exact h.unique transactions (List.Perm.refl _) merchants hperm
  · intro h
    refine ⟨fun transactions' htransactions merchants hperm ↦ ?_, topMerchants_sorted,
      fun name hname hout r hr ↦ topMerchants_top hname hout hr⟩
    rw [h merchants (hperm.trans (merchantMap_perm htransactions)), getTopMerchants_eq]

/-- **A tie at the limit.** Of two merchants at which 50.00 have been spent each, the one that the
transactions, or the map, name first is the one that is shown. -/
theorem top_merchant_tied :
    (getTopMerchantsWithAccountDateRange
        [phoneBill 3 (some "A") 5000, phoneBill 4 (some "B") 5000] none none 1).map
          TopMerchant.name = ["A"] ∧
      (rankMerchants [("B", 5000, 1), ("A", 5000, 1)] 1).map TopMerchant.name = ["B"] ∧
      ¬TopWellDefined [phoneBill 3 (some "A") 5000, phoneBill 4 (some "B") 5000] none none 1 := by
  have hfirst : (getTopMerchantsWithAccountDateRange
      [phoneBill 3 (some "A") 5000, phoneBill 4 (some "B") 5000] none none 1).map
        TopMerchant.name = ["A"] := by decide
  have hsecond : (rankMerchants [("B", 5000, 1), ("A", 5000, 1)] 1).map TopMerchant.name =
      ["B"] := by decide
  have hmap : merchantMap [phoneBill 3 (some "A") 5000, phoneBill 4 (some "B") 5000] none none =
      [("A", 5000, 1), ("B", 5000, 1)] := by decide
  refine ⟨hfirst, hsecond, fun h ↦ ?_⟩
  have hsame := h.unique _ (List.Perm.refl _) [("B", 5000, 1), ("A", 5000, 1)]
    (hmap ▸ List.Perm.swap _ _ _)
  rw [hsame, hfirst] at hsecond
  exact absurd hsecond (by decide)

end Sumurai
