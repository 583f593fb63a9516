import Mathlib.Tactic.Linarith
import Mathlib.Tactic.Ring
import Sumurai.Foundations.PartialSums
import Sumurai.Frontend.SankeyBalance

/-!
# Savings and the cash balance

The cash balance of a list is the sum of the amounts that its transactions are shown with, of those
that `computeSankeyData` looks at: the posted ones that are no transfers. The savings of the diagram
take income by its absolute value, money in on other accounts than depository ones not at all, and
money out of an excluded category not at all.

`netSavings_cashFlows` has what comes between the two, and `netSavings_balance_iff` says when
nothing does.
-/

namespace Sumurai.Frontend

open PartialSums

variable (M : CaseMapping)

/-! ### One transaction -/

/-- The transaction is not passed over at once. -/
def isIncluded (t : Transaction) : Bool :=
  t.pending ≠ some true && !isTransferFlow M t (resolveMajorCategory M (rawCategory t) [])

/-- The category of the transaction is one of income. -/
def hasIncomeCategory (t : Transaction) : Bool :=
  isIncomeCategory M (rawCategory t) (resolveMajorCategory M (rawCategory t) [])

/-- The account types of `isDepositoryInflow`. -/
def isDepositoryAccount (t : Transaction) : Bool :=
  M.lowerCase t.accountType.toList ∈ ["depository".toList, "checking".toList, "savings".toList]

variable {M} {t : Transaction}

theorem isSpendingTransaction_iff : isSpendingTransaction M t = true ↔
    getDisplayAmount M t < 0 ∧ isTransactionCategoryExcluded M t = false := by
  rw [isSpendingTransaction, Bool.and_eq_true, decide_eq_true_iff, Bool.not_eq_true']

theorem isDepositoryInflow_iff : isDepositoryInflow M t = true ↔
    isDepositoryAccount M t = true ∧ 0 < getDisplayAmount M t := by
  have hspending : 0 < getDisplayAmount M t → isSpendingTransaction M t = false := fun hpos ↦
    Bool.eq_false_iff.2 fun h ↦ (isSpendingTransaction_iff.1 h).1.not_gt hpos
  have hshape : isDepositoryInflow M t = (isDepositoryAccount M t &&
      decide (0 < getDisplayAmount M t) && !isSpendingTransaction M t) := rfl
  rw [hshape, Bool.and_eq_true, Bool.and_eq_true, decide_eq_true_iff, Bool.not_eq_true']
  exact ⟨And.left, fun h ↦ ⟨h, hspending h.2⟩⟩

/-- The amount of an inflow is what is shown, without the sign. -/
theorem abs_inflowAmt : |if 0 < getDisplayAmount M t then getDisplayAmount M t else t.amount| =
    |getDisplayAmount M t| := by
  split
  · rfl
  · rw [getDisplayAmount]
    split
    · rfl
    · exact (abs_neg t.amount).symm

/-- Spending counts with what is shown. -/
theorem getNetSpendingAmount_of_spending (h : isSpendingTransaction M t = true) :
    getNetSpendingAmount M t = -getDisplayAmount M t := by
  obtain ⟨hneg, hexcluded⟩ := isSpendingTransaction_iff.1 h
  rw [getNetSpendingAmount, hexcluded, if_neg Bool.false_ne_true]
  split
  · exact if_neg hneg.not_ge
  · rfl

theorem isIncluded_iff : isIncluded M t = true ↔ t.pending ≠ some true ∧
    ¬isTransferFlow M t (resolveMajorCategory M (rawCategory t) []) = true := by
  rw [isIncluded, Bool.and_eq_true, decide_eq_true_iff, Bool.not_eq_true', Bool.not_eq_true]

/-- What the body of the loop does, in terms of the amount that is shown. -/
theorem addTransaction_eq (flows : CashFlows) (t : Transaction) : addTransaction M flows t =
    if isIncluded M t then
      if (hasIncomeCategory M t || isDepositoryInflow M t) && getDisplayAmount M t ≠ 0 then
        flows.addInflow (sourceName M t (rawCategory t)) |getDisplayAmount M t|
      else if isSpendingTransaction M t then
        flows.addOutflow (resolveMajorCategory M (rawCategory t) [])
          (subName M t (rawCategory t) (resolveMajorCategory M (rawCategory t) []))
            (-getDisplayAmount M t)
      else flows
    else flows := by
  have hspend : (isSpendingTransaction M t && decide (0 < getNetSpendingAmount M t)) =
      isSpendingTransaction M t := by
    cases h : isSpendingTransaction M t with
    | false => rfl
    | true =>
      rw [Bool.true_and, getNetSpendingAmount_of_spending h]
      exact decide_eq_true (neg_pos.2 (isSpendingTransaction_iff.1 h).1)
  simp only [addTransaction, abs_inflowAmt, abs_pos, hspend]
  by_cases hincluded : isIncluded M t = true
  · obtain ⟨hpending, htransfer⟩ := isIncluded_iff.1 hincluded
    rw [if_neg hpending, if_neg htransfer, if_pos hincluded]
    refine if_congr Iff.rfl rfl ?_
    by_cases hspending : isSpendingTransaction M t = true
    · rw [if_pos hspending, if_pos hspending, getNetSpendingAmount_of_spending hspending]
    · rw [if_neg hspending, if_neg hspending]
  · rw [if_neg hincluded]
    split
    · rfl
    rename_i hpending
    exact if_pos (of_not_not fun htransfer ↦ hincluded (isIncluded_iff.2 ⟨hpending, htransfer⟩))

/-! ### The savings of a list -/

variable (M)

/-- What a transaction adds to the savings. -/
def netChange (t : Transaction) : Decimal :=
  if isIncluded M t then
    if hasIncomeCategory M t || isDepositoryInflow M t then |getDisplayAmount M t|
    else if isSpendingTransaction M t then getDisplayAmount M t
    else 0
  else 0

/-- Money that went out under a category of income: a paycheck that was reversed. -/
def IsReversal (t : Transaction) : Prop :=
  isIncluded M t = true ∧ hasIncomeCategory M t = true ∧ getDisplayAmount M t < 0

/-- Money that neither side of the diagram counts: what came in on another account than a depository
one, and what went out under an excluded category. -/
def IsUncounted (t : Transaction) : Prop :=
  isIncluded M t = true ∧ hasIncomeCategory M t = false ∧
    (0 < getDisplayAmount M t ∧ isDepositoryAccount M t = false ∨
      getDisplayAmount M t < 0 ∧ isTransactionCategoryExcluded M t = true)

instance : DecidablePred (IsReversal M) := fun _ ↦ inferInstanceAs (Decidable (_ ∧ _ ∧ _))

instance : DecidablePred (IsUncounted M) := fun _ ↦ inferInstanceAs (Decidable (_ ∧ _ ∧ _))

variable {M}

theorem netSavings_addTransaction (flows : CashFlows) (t : Transaction) :
    (sankeyStats (addTransaction M flows t)).netSavings =
      (sankeyStats flows).netSavings + netChange M t := by
  rw [addTransaction_eq, netChange]
  cases isIncluded M t with
  | false => exact (add_zero _).symm
  | true =>
    simp only [if_true]
    by_cases hincome : (hasIncomeCategory M t || isDepositoryInflow M t) = true
    · rw [if_pos hincome, hincome, Bool.true_and]
      by_cases hzero : getDisplayAmount M t = 0
      · -- an inflow of nothing is no flow, and no spending either
        have hspending : ¬isSpendingTransaction M t = true := fun h ↦
          (isSpendingTransaction_iff.1 h).1.ne hzero
        rw [if_neg (by simpa using hzero), if_neg hspending, hzero, abs_zero, add_zero]
      · rw [if_pos (by simpa using hzero)]
        simp only [sankeyStats, CashFlows.addInflow]
        ring
    · rw [if_neg hincome, if_neg (by simp [Bool.eq_false_iff.2 hincome])]
      split
      · simp only [sankeyStats, CashFlows.addOutflow]
        ring
      · exact (add_zero _).symm

theorem netSavings_cashFlows_eq_sum (transactions : List Transaction) :
    (sankeyStats (cashFlows M transactions)).netSavings = (transactions.map (netChange M)).sum := by
  have hloop (flows : CashFlows) :
      (sankeyStats (transactions.foldl (addTransaction M) flows)).netSavings =
        (sankeyStats flows).netSavings + (transactions.map (netChange M)).sum := by
    induction transactions generalizing flows with
    | nil => exact (add_zero _).symm
    | cons t transactions ih =>
      rw [List.foldl_cons, ih, netSavings_addTransaction, List.map_cons, List.sum_cons, add_assoc]
  exact (hloop CashFlows.empty).trans (zero_add _)

/-- What a transaction adds is what it is shown with, but for reversals and what is not counted. -/
theorem netChange_eq (t : Transaction) : netChange M t =
    (if isIncluded M t then getDisplayAmount M t else 0) -
      (2 * (if IsReversal M t then getDisplayAmount M t else 0) +
        if IsUncounted M t then getDisplayAmount M t else 0) := by
  by_cases hincluded : isIncluded M t = true
  · rw [netChange, if_pos hincluded, if_pos hincluded]
    by_cases hincome : hasIncomeCategory M t = true
    · have hreversal : IsReversal M t ↔ getDisplayAmount M t < 0 := by
        rw [IsReversal, and_iff_right hincluded, and_iff_right hincome]
      have huncounted : ¬IsUncounted M t := fun h ↦ absurd (hincome.symm.trans h.2.1) nofun
      rw [if_pos (by rw [hincome]; rfl), if_congr hreversal rfl rfl, if_neg huncounted]
      split
      · rename_i hneg
        rw [abs_of_neg hneg]
        ring
      · rename_i hneg
        rw [abs_of_nonneg (not_lt.1 hneg)]
        ring
    · have hreversal : ¬IsReversal M t := fun h ↦ hincome h.2.1
      have huncounted : IsUncounted M t ↔
          0 < getDisplayAmount M t ∧ isDepositoryAccount M t = false ∨
            getDisplayAmount M t < 0 ∧ isTransactionCategoryExcluded M t = true := by
        rw [IsUncounted, and_iff_right hincluded, and_iff_right (Bool.eq_false_iff.2 hincome)]
      rw [Bool.eq_false_iff.2 hincome, Bool.false_or, if_neg hreversal,
        if_congr huncounted rfl rfl]
      simp only [isDepositoryInflow_iff, isSpendingTransaction_iff]
      rcases lt_trichotomy (getDisplayAmount M t) 0 with hneg | hzero | hpos
      · cases isTransactionCategoryExcluded M t <;> simp [hneg, hneg.not_gt]
      · simp [hzero]
      · cases isDepositoryAccount M t <;> simp [hpos, hpos.not_gt, abs_of_pos hpos]
  · have hreversal : ¬IsReversal M t := fun h ↦ hincluded h.1
    have huncounted : ¬IsUncounted M t := fun h ↦ hincluded h.1
    rw [netChange, if_neg hincluded, if_neg hincluded, if_neg hreversal, if_neg huncounted]
    rfl

/-- **The savings of a list**, and what comes between them and the cash balance. -/
theorem netSavings_cashFlows (transactions : List Transaction) :
    (sankeyStats (cashFlows M transactions)).netSavings =
      sumOf (getDisplayAmount M) (fun t ↦ isIncluded M t = true) transactions -
        (2 * sumOf (getDisplayAmount M) (IsReversal M) transactions +
          sumOf (getDisplayAmount M) (IsUncounted M) transactions) := by
  rw [netSavings_cashFlows_eq_sum]
  induction transactions with
  | nil => rfl
  | cons t transactions ih =>
    rw [List.map_cons, List.sum_cons, ih, netChange_eq, sumOf_cons, sumOf_cons, sumOf_cons]
    ring

variable (M)

/-- The diagram is drawn with these savings. -/
def HasNetSavings (transactions : List Transaction) (includeSubcategories : Option Bool)
    (netSavings : Decimal) : Prop :=
  ∃ result, computeSankeyData M transactions includeSubcategories = some result ∧
    result.stats.netSavings = netSavings

/-- The sum of the amounts that the included transactions are shown with. -/
def cashBalance (transactions : List Transaction) : Decimal :=
  ((transactions.filter (isIncluded M)).map (getDisplayAmount M)).sum

/-- Wherever it comes, the transaction changes the savings by what it is shown with, if it is
included. -/
def ChangesBySignedAmount (t : Transaction) : Prop :=
  ∀ before after includeSubcategories netSavings,
    HasNetSavings M (before ++ after) includeSubcategories netSavings →
      HasNetSavings M (before ++ t :: after) includeSubcategories
        (netSavings + if isIncluded M t then getDisplayAmount M t else 0)

theorem hasNetSavings_iff (transactions : List Transaction) (includeSubcategories : Option Bool)
    (netSavings : Decimal) : HasNetSavings M transactions includeSubcategories netSavings ↔
      (sankeyStats (cashFlows M transactions)).netSavings = netSavings := by
  obtain ⟨result, hresult, hstats, -⟩ := exists_drawing M transactions includeSubcategories
  rw [← hstats, HasNetSavings, hresult]
  constructor
  · rintro ⟨_, ⟨⟩, h⟩
    exact h
  · exact fun h ↦ ⟨result, rfl, h⟩

theorem changesBySignedAmount_iff (t : Transaction) :
    ChangesBySignedAmount M t ↔ ¬IsReversal M t ∧ ¬IsUncounted M t := by
  have hchange : ChangesBySignedAmount M t ↔
      netChange M t = if isIncluded M t then getDisplayAmount M t else 0 := by
    simp only [ChangesBySignedAmount, hasNetSavings_iff, netSavings_cashFlows_eq_sum,
      List.map_append, List.map_cons, List.sum_append, List.sum_cons]
    constructor
    · intro h
      have hnone := h [] [] none 0 rfl
      simpa using hnone
    · rintro h before after - netSavings rfl
      rw [h]
      ring
  rw [hchange, netChange_eq]
  -- no transaction is both
  by_cases hreversal : IsReversal M t
  · have huncounted : ¬IsUncounted M t := fun h ↦ absurd (hreversal.2.1.symm.trans h.2.1) nofun
    have hneg := hreversal.2.2
    simp only [hreversal, huncounted, if_true, if_false, not_true, false_and, iff_false]
    exact fun h ↦ by linarith
  · by_cases huncounted : IsUncounted M t
    · have hne : getDisplayAmount M t ≠ 0 := by
        rcases huncounted.2.2 with h | h
        · exact h.1.ne'
        · exact h.1.ne
      simp only [hreversal, huncounted, if_true, if_false, not_true, and_false, iff_false]
      exact fun h ↦ hne (by linarith)
    · simp [hreversal, huncounted]

/-- **When the savings are the cash balance.** For every list: exactly when the reversals, twice,
and what is not counted cancel out. A transaction changes the savings by its signed amount in every
list exactly when it is neither. -/
theorem netSavings_balance_iff :
    (∀ transactions includeSubcategories,
      HasNetSavings M transactions includeSubcategories (cashBalance M transactions) ↔
        2 * sumOf (getDisplayAmount M) (IsReversal M) transactions +
          sumOf (getDisplayAmount M) (IsUncounted M) transactions = 0) ∧
      ∀ t, ChangesBySignedAmount M t ↔ ¬IsReversal M t ∧ ¬IsUncounted M t := by
  refine ⟨fun transactions includeSubcategories ↦ ?_, changesBySignedAmount_iff M⟩
  have hbalance : cashBalance M transactions =
      sumOf (getDisplayAmount M) (fun t ↦ isIncluded M t = true) transactions := by
    simp only [cashBalance, sumOf, Bool.decide_eq_true]
  rw [hasNetSavings_iff, netSavings_cashFlows, hbalance, sub_eq_self]

/-- A posted transaction without categories of the user's. -/
def postedTransaction (accountType primary : String) (amount : Decimal) : Transaction where
  accountId := some "1"
  date := "2024-02-29"
  amount := amount
  pending := some false
  category := { primary := primary, detailed := none }
  accountType := accountType
  provider := some "plaid"
  customCategory := none
  customSubcategory := none
  ruleCategory := none
  ruleSubcategory := none

/-- **A reversed paycheck** of 2000.00 raises the savings by as much, and a refund of 50.00 on a
credit card does not change them. -/
theorem reversedPaycheck_misread :
    HasNetSavings simpleCase [postedTransaction "checking" "INCOME" 200000] none 200000 ∧
      cashBalance simpleCase [postedTransaction "checking" "INCOME" 200000] = -200000 ∧
      ¬HasNetSavings simpleCase [postedTransaction "checking" "INCOME" 200000] none
        (cashBalance simpleCase [postedTransaction "checking" "INCOME" 200000]) ∧
      HasNetSavings simpleCase [postedTransaction "credit" "GENERAL_MERCHANDISE" (-5000)] none 0 ∧
      cashBalance simpleCase [postedTransaction "credit" "GENERAL_MERCHANDISE" (-5000)] = 5000 := by
  simp only [hasNetSavings_iff]
  decide +kernel

end Sumurai.Frontend
